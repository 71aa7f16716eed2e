/-
OpBindings.FileTree — a file system as a value.

Directories and files by path, with a working directory: what a run needs
of a file system and no more. Each operation answers as the system call of
its kind does, in the order in which that call looks at its path.
-/
import OpBindings.Directory
import OpBindings.Storage

namespace OpBindings

/-- Everything below the root, and the text of the standard input. -/
structure FileTree where
  root : Directory
  input : String := ""

/-- Where a path leads, with the way there from the root. -/
inductive Place where
  | directory (path : FilePath)
  | file (path : FilePath) (contents : String)
  /-- Nothing is there, in a directory that is. -/
  | vacant (path : FilePath)

namespace FileTree

/-- The name below the root of the directory that relative paths start from. -/
def workName : String := "work"

/-- A tree with an empty working directory. -/
def empty : FileTree := { root := Directory.empty.put (.directory .empty) [workName] }

/-- The tree with an entry at a path from the root. -/
def put (t : FileTree) (path : FilePath) (entry : Directory.Entry) : FileTree :=
  { t with root := t.root.put entry path }

/-! ## Paths -/

/-- The longest name of a file, in bytes. -/
def maxName : Nat := 255

/-- The longest path, in bytes. -/
def maxPath : Nat := 4095

/-- Follows the parts of a path from the directory `here`. The `trail` leads
back to the root: each name that was followed, with the directory it was
found in, the last one first. -/
def walk (trail : List (String × Directory)) (here : Directory) :
    List String → Except FileError Place
  | [] => .ok (.directory (way trail))
  | part :: rest =>
    if part = "" || part = "." then walk trail here rest
    else if part = ".." then
      match trail with
      | [] => walk [] here rest
      | (_, parent) :: trail => walk trail parent rest
    else if maxName < part.utf8ByteSize then .error .nameTooLong
    else
      match here.find? part with
      | none => if rest.isEmpty then .ok (.vacant (way trail ++ [part])) else .error .notFound
      | some (.directory inside) => walk ((part, here) :: trail) inside rest
      | some (.file contents) =>
        if rest.isEmpty then .ok (.file (way trail ++ [part]) contents) else .error .notDirectory
where
  /-- The names on the way from the root. -/
  way (trail : List (String × Directory)) : FilePath := (trail.map (·.1)).reverse

/-- Follows parts from the root or from the working directory. -/
def follow (t : FileTree) (rooted : Bool) (parts : List String) : Except FileError Place :=
  walk [] t.root (if rooted then parts else workName :: parts)

/-- What is wrong with a path before anything is looked up. -/
def check (path : String) : Except FileError Unit :=
  if path.toList.contains '\x00' then .error .nulInName
  else if path.isEmpty then .error .notFound
  else if maxPath < path.utf8ByteSize then .error .nameTooLong
  else .ok ()

/-- Where a path leads. -/
def find (t : FileTree) (path : String) : Except FileError Place := do
  check path
  t.follow (Path.isRooted path) (Path.parts path)

/-! ## Operations -/

def readFile (t : FileTree) (path : String) : Except FileError String := do
  match ← t.find path with
  | .file _ contents => .ok contents
  | .directory _ => .error .isDirectory
  | .vacant _ => .error .notFound

/-- The tree with a file written. A path that ends with a slash names no
file: the directories on the way are looked up, its last part is not. -/
def writeFile (t : FileTree) (path contents : String) : Except FileError FileTree := do
  check path
  if Path.endsWithSlash path then
    let _ ← t.follow (Path.isRooted path) ((Path.filled path).dropLast ++ [""])
    .error .isDirectory
  else
    match ← t.follow (Path.isRooted path) (Path.parts path) with
    | .directory _ => .error .isDirectory
    | .file found _ | .vacant found => .ok (t.put found (.file contents))

/-- The tree with one more directory, where the parts lead. -/
def createAt (t : FileTree) (rooted : Bool) (parts : List String) : Except FileError FileTree := do
  match ← t.follow rooted parts with
  | .directory _ | .file .. => .error .alreadyExists
  | .vacant found => .ok (t.put found (.directory .empty))

/-- Makes the directory where the parts lead; one that is there already is fine. -/
def ensureAt (t : FileTree) (rooted : Bool) (parts : List String) :
    Except FileError Unit × FileTree :=
  match t.createAt rooted parts with
  | .ok changed => (.ok (), changed)
  | .error e =>
    match t.follow rooted parts with
    | .ok (.directory _) => (.ok (), t)
    | _ => (.error e, t)

/-- Makes the directory where the parts lead; where the one above it is missing, that one first. -/
def ensureFrom (t : FileTree) (rooted : Bool) (parts : List String) :
    List (List String) → Except FileError Unit × FileTree
  | [] => t.ensureAt rooted parts
  | parent :: higher =>
    match t.ensureAt rooted parts with
    | (.error .notFound, _) =>
      match t.ensureFrom rooted parent higher with
      | (.ok _, changed) => changed.ensureAt rooted parts
      | (.error e, changed) => (.error e, changed)
    | answer => answer

/-- Makes a directory with all directories above it; slashes at the end of
its path change nothing. The empty path is the working directory. -/
def createDirectories (t : FileTree) (path : String) : Except FileError Unit × FileTree :=
  if path.isEmpty then (.ok (), t)
  else
    match check path with
    | .error e => (.error e, t)
    | .ok _ => t.ensureFrom (Path.isRooted path) (Path.filled path) (Path.above path)

/-- The tree as a storage. -/
def storage : Storage (StateM FileTree) where
  input := fun t => (.ok t.input, t)
  readFile := fun path t => (t.readFile path, t)
  createDirectories := fun path t => t.createDirectories path
  writeFile := fun path contents t =>
    match t.writeFile path contents with
    | .ok changed => (.ok (), changed)
    | .error e => (.error e, t)

/-! ## Contents -/

/-- A tree that holds the given files in its working directory. -/
def ofFiles (input : String) (files : List (String × String)) : FileTree :=
  files.foldl (fun t (name, contents) =>
    t.put (workName :: (Path.filled name).filter (· != ".")) (.file contents)) { empty with input }

/-- The files below the working directory, by their paths from there. -/
def localFiles (t : FileTree) : List (String × String) :=
  (t.root.inside workName).files.map fun (path, contents) => ("/".intercalate path, contents)

end FileTree

end OpBindings
