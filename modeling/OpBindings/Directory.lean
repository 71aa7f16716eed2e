/-
OpBindings.Directory — what is in a directory, as a value.

A `Directory` holds files and directories by name. `find?` looks a name up,
`set` puts an entry under a name, `put` under a path, and `files` lists all
files with their paths. What `set` puts in is found again (`find?_set_self`),
and every other name keeps what it had (`find?_set_of_ne`).
-/

namespace OpBindings

/-- A path part by part. -/
abbrev FilePath := List String

/-- The entries of a directory, one after the other. -/
inductive Directory where
  | empty
  | file (name contents : String) (others : Directory)
  | folder (name : String) (inside others : Directory)
deriving DecidableEq, Repr

namespace Directory

/-- What stands under a name. -/
inductive Entry where
  | directory (inside : Directory)
  | file (contents : String)
deriving DecidableEq, Repr

/-- The directory with an entry before all others. -/
def add (others : Directory) (name : String) : Entry → Directory
  | .directory inside => .folder name inside others
  | .file contents => .file name contents others

/-- The entry under a name. -/
def find? (name : String) : Directory → Option Entry
  | .empty => none
  | .file other contents others =>
    if other = name then some (.file contents) else others.find? name
  | .folder other inside others =>
    if other = name then some (.directory inside) else others.find? name

/-- The directory with an entry under a name, in the place of what was there. -/
def set (name : String) (entry : Entry) : Directory → Directory
  | .empty => empty.add name entry
  | .file other contents others =>
    if other = name then others.add name entry else .file other contents (others.set name entry)
  | .folder other inside others =>
    if other = name then others.add name entry else .folder other inside (others.set name entry)

/-- The directory under a name; an empty one if no directory is there. -/
def inside (d : Directory) (name : String) : Directory :=
  match d.find? name with
  | some (.directory inside) => inside
  | _ => empty

/-- The directory with an entry at a path, and with the directories on the way to it. -/
def put (d : Directory) (entry : Entry) : FilePath → Directory
  | [] => d
  | [name] => d.set name entry
  | name :: next :: rest => d.set name (.directory ((d.inside name).put entry (next :: rest)))

/-- All files in the directory and below, each with its path. -/
def files : Directory → List (FilePath × String)
  | .empty => []
  | .file name contents others => ([name], contents) :: others.files
  | .folder name inside others =>
    inside.files.map (fun (path, contents) => (name :: path, contents)) ++ others.files

/-! ## Looking up what was put in -/

@[simp] theorem find?_add_self (d : Directory) (name : String) (entry : Entry) :
    (d.add name entry).find? name = some entry := by
  cases entry <;> simp [add, find?]

theorem find?_add_of_ne (d : Directory) {name other : String} (entry : Entry) (h : name ≠ other) :
    (d.add name entry).find? other = d.find? other := by
  cases entry <;> simp [add, find?, h]

@[simp] theorem find?_set_self (d : Directory) (name : String) (entry : Entry) :
    (d.set name entry).find? name = some entry := by
  induction d with
  | empty => simp [set]
  | file other contents others ih => by_cases h : other = name <;> simp [set, find?, h, ih]
  | folder other inside others _ ih => by_cases h : other = name <;> simp [set, find?, h, ih]

theorem find?_set_of_ne (d : Directory) {name other : String} (entry : Entry) (h : name ≠ other) :
    (d.set name entry).find? other = d.find? other := by
  induction d with
  | empty => simp [set, find?_add_of_ne _ _ h]
  | file this contents others ih =>
    by_cases hn : this = name
    · subst hn
      simp [set, find?, find?_add_of_ne _ _ h, h]
    · simp [set, find?, hn, ih]
  | folder this inside others _ ih =>
    by_cases hn : this = name
    · subst hn
      simp [set, find?, find?_add_of_ne _ _ h, h]
    · simp [set, find?, hn, ih]

end Directory

end OpBindings
