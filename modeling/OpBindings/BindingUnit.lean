/-
OpBindings.BindingUnit — the generated header and body of one surface.

The body holds the bound functions and one function that registers them; the
header declares that one function.
-/
import OpBindings.Binding.Source
import OpBindings.Settings
import OpBindings.PublicName

namespace OpBindings

/-- A bound function, ready to stand in a unit. -/
structure BoundFunction where
  /-- The base name that it is bound for. -/
  name : String
  symbol : String
  text : String
deriving DecidableEq, Repr

namespace BoundFunction

/-- The statement that registers the function. -/
def registration (f : BoundFunction) (surface : Surface) (settings : Settings) : String :=
  "rb_" ++ surface.defineFunction ++ "(m, \"" ++ publicName f.name surface ++ "\", " ++
    (if settings.legacyCast then "(VALUE (*)(...)) " else "") ++ f.symbol ++ ", -1);"

end BoundFunction

/-- The bound function of a binding. -/
def Binding.function (b : Binding) : BoundFunction where
  name := b.name
  symbol := b.symbol
  text := b.text

/-- The generated files of one surface. -/
structure BindingUnit where
  surface : Surface
  header : String
  body : String
deriving DecidableEq, Repr

namespace BindingUnit

def headerFile (u : BindingUnit) : String := u.surface.name ++ "_functions.h"

def bodyFile (u : BindingUnit) : String := u.surface.name ++ "_functions.cpp"

/-- The first lines of every generated file. -/
def banner : String := "// generated by funcgen\n// do not edit by hand\n"

/-- What the generated functions need. -/
def preamble : String :=
  "#include <torch/torch.h>\n#include <rice/rice.hpp>\n\n#include \"ruby_arg_parser.h\"\n" ++
  "#include \"templates.h\"\n#include \"wrap_outputs.h\"\n"

/-- The registration function without what follows its head. -/
def registrationHead (surface : Surface) (settings : Settings) : String :=
  "void " ++ settings.registrationName surface ++ "(Rice::Module& m)"

def headerText (surface : Surface) (settings : Settings) : String :=
  banner ++ "\n#pragma once\n\n" ++ registrationHead surface settings ++ ";\n"

def bodyText (surface : Surface) (functions : List BoundFunction) (settings : Settings) : String :=
  banner ++ "\n" ++ preamble ++ "\n" ++
  String.join (functions.map (·.text ++ "\n")) ++
  registrationHead surface settings ++ " \x7b\n" ++
  String.join (functions.map fun f => "  " ++ f.registration surface settings ++ "\n") ++
  "\x7d\n"

/-- The unit of a surface. -/
def ofFunctions (surface : Surface) (functions : List BoundFunction) (settings : Settings) :
    BindingUnit where
  surface := surface
  header := headerText surface settings
  body := bodyText surface functions settings

/-- The files of the unit: header first. -/
def files (u : BindingUnit) : List (String × String) :=
  [(u.headerFile, u.header), (u.bodyFile, u.body)]

end BindingUnit

end OpBindings
