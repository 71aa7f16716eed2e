/-
OpBindings.CommandLine — the command `funcgen`.

    funcgen [options] INPUT

The arguments are read from left to right into `Arguments`, and the first
thing that is wrong ends the reading; a request for the version or for help
ends it too. `CommandLine.run` then does what was asked for on any storage
and reports: exit code, output, failure, and the notes that the chosen
verbosity shows.
-/
import OpBindings.DescriptorTable
import OpBindings.Storage

namespace OpBindings

/-- What was asked for, as far as the arguments have been read. -/
structure Arguments where
  input : Option String := none
  outDir : Option String := none
  surfaces : List Surface := []
  allowLoneWriter : Bool := false
  legacyCast : Bool := false
  entryPrefix : Option String := none
  dryRun : Bool := false
  verbosity : Nat := 0
deriving Repr

/-- An option that takes a value. -/
inductive ValueOption where
  | outDir
  | surface
  | entryPrefix
deriving DecidableEq, Repr

/-- What the arguments ask for. -/
inductive Request where
  | generate (a : Arguments) (input : String)
  | version
  | help
  /-- The arguments make no sense. -/
  | misuse

namespace Arguments

/-! ## Reading the arguments -/

def valueOption? : String → Option ValueOption
  | "--out-dir" => some .outDir
  | "--surface" => some .surface
  | "--registration-prefix" => some .entryPrefix
  | _ => none

/-- The arguments with the value of an option. Only surfaces can be given more than once. -/
def setValue (a : Arguments) (value : String) : ValueOption → Option Arguments
  | .outDir =>
    if a.outDir.isSome || value.isEmpty then none else some { a with outDir := some value }
  | .surface =>
    (Surface.ofName? value).map fun surface => { a with surfaces := a.surfaces ++ [surface] }
  | .entryPrefix =>
    if a.entryPrefix.isSome then none else some { a with entryPrefix := some value }

/-- The arguments with a flag. Only the one that asks for more notes can be given again. -/
def setFlag (a : Arguments) : String → Option Arguments
  | "--allow-missing-base" =>
    if a.allowLoneWriter then none else some { a with allowLoneWriter := true }
  | "--legacy-method-cast" => if a.legacyCast then none else some { a with legacyCast := true }
  | "--dry-run" => if a.dryRun then none else some { a with dryRun := true }
  | "--verbose" => some { a with verbosity := a.verbosity + 1 }
  | _ => none

/-- The arguments with the input; there is only one. -/
def setInput (a : Arguments) (value : String) : Option Arguments :=
  if a.input.isSome || value.isEmpty then none else some { a with input := some value }

/-- The inputs after `--`. -/
def readInputs (a : Arguments) : List String → Option Arguments
  | [] => some a
  | word :: rest => do (← a.setInput word).readInputs rest

/-- A cluster of one-letter flags; it may end in a request. -/
def readLetters (a : Arguments) : List Char → Arguments ⊕ Request
  | [] => .inl a
  | 'v' :: rest => { a with verbosity := a.verbosity + 1 }.readLetters rest
  | 'V' :: _ => .inr .version
  | 'h' :: _ => .inr .help
  | _ => .inr .misuse

/-- A word that can be the value of an option before it. -/
def isValue (word : String) : Bool := word == "-" || word.toList.head? != some '-'

/-- What a complete list of arguments asks for. -/
def finish (a : Arguments) : Request :=
  match a.input with
  | none => .misuse
  | some input => .generate a input

/-- Reads the words from left to right. -/
def read (a : Arguments) : List String → Request
  | [] => a.finish
  | word :: rest =>
    if isValue word then
      match a.setInput word with
      | none => .misuse
      | some a => a.read rest
    else if word = "--" then
      match a.readInputs rest with
      | none => .misuse
      | some a => a.finish
    else if word = "--version" then .version
    else if word = "--help" then .help
    else if !"--".toList.isPrefixOf word.toList then
      match a.readLetters (word.toList.drop 1) with
      | .inr request => request
      | .inl a => a.read rest
    else
      match Text.cutAt '=' word.toList with
      | some (name, value) =>
        match (valueOption? (String.ofList name)).bind (a.setValue (String.ofList value)) with
        | none => .misuse
        | some a => a.read rest
      | none =>
        match valueOption? word with
        | none =>
          match a.setFlag word with
          | none => .misuse
          | some a => a.read rest
        | some option =>
          match rest with
          | [] => .misuse
          | value :: rest =>
            if !isValue value then .misuse
            else
              match a.setValue value option with
              | none => .misuse
              | some a => a.read rest

/-! ## What they mean -/

/-- The choices for the run; without a surface all are meant. -/
def settings (a : Arguments) : Settings where
  loneWriter := if a.allowLoneWriter then .accept else .refuse
  entryPrefix := a.entryPrefix.getD "add"
  legacyCast := a.legacyCast
  surfaces := if a.surfaces.isEmpty then Surface.all else a.surfaces

/-- The notes to show. -/
def level (a : Arguments) : Level :=
  match a.verbosity with
  | 0 => .warn
  | 1 => .info
  | 2 => .debug
  | _ => .trace

end Arguments

namespace CommandLine

/-- What the command leaves behind, but for files. -/
structure Report where
  code : Nat
  output : String := ""
  failure : Option String := none
  notes : List Note := []

def version : String := "funcgen 0.1.0\n"

/-- How the command is called. -/
def usage : String := "Usage: funcgen [OPTIONS] <INPUT>\n"

/-- The options as they are written, each with what it does. -/
def options : List (String × String) :=
  [("    --out-dir <OUT_DIR>", "Directory receiving the generated units [default: .]"),
   ("    --surface <SURFACE>", "Surface to generate (repeatable; default: all)"),
   ("    --allow-missing-base", "Dispatch out-only overload groups instead of failing"),
   ("    --legacy-method-cast", "Cast registered functions for Ruby < 2.7 hosts"),
   ("    --registration-prefix <REGISTRATION_PREFIX>",
    "Prefix of the registration entry points [default: add]"),
   ("    --dry-run", "Generate and report without writing files"),
   ("-v, --verbose...", "Increase log verbosity (-v info, -vv debug, -vvv trace)"),
   ("-h, --help", "Print help"),
   ("-V, --version", "Print version")]

/-- The help: what the command is for, how it is called, and every option with its meaning below. -/
def help : String :=
  "Generate Ruby tensor bindings from the native operator descriptor table\n\n" ++ usage ++
  "\nArguments:\n  <INPUT>  Descriptor table (YAML), or `-` for stdin\n\nOptions:\n" ++
  String.join (options.map fun (spelling, meaning) =>
    "  " ++ spelling ++ "\n          " ++ meaning ++ "\n")

variable {m : Type → Type} [Monad m]

/-- The text of the table; a path with the one step `-` is the standard input. -/
def readTable (s : Storage m) (input : String) : EffectRun m String :=
  Storage.step input (if Path.same input "-" then s.input else s.readFile input)

/-- The run that the arguments ask for. -/
def generate (s : Storage m) (a : Arguments) (input : String) : EffectRun m Statistics := do
  let text ← readTable s input
  let table := Run.lift (DescriptorTable.ofYaml text)
  if a.dryRun then
    let generated ← .lift (Generated.ofTable a.settings table)
    pure generated.statistics
  else (s.outlet (a.outDir.getD ".")).generate a.settings table

/-- The report of a run. -/
def report (level : Level) (run : Run Statistics) : Report :=
  match run.outcome with
  | .ok statistics => { code := 0, output := statistics.text, notes := run.journal.log level }
  | .error fault =>
    { code := 1, failure := some ("Error: " ++ fault.message), notes := run.journal.log level }

/-- The whole command. -/
def run (s : Storage m) (words : List String) : m Report := do
  match ({} : Arguments).read words with
  | .version => pure { code := 0, output := version }
  | .help => pure { code := 0, output := help }
  | .misuse => pure { code := 2, failure := some usage }
  | .generate a input =>
    let run ← (generate s a input).run
    pure (report a.level run)

end CommandLine

end OpBindings
