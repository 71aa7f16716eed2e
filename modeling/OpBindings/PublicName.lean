/-
OpBindings.PublicName — the name under which an operator is seen by the host.

The host's conventions: a mutating name ends with `!`, a predicate with `?`
and without its `is_`; a name that the host layer has for itself gets a
leading `_`; and a linear-algebra name loses the part that its module says
already.
-/
import OpBindings.Surface

namespace OpBindings

/-- The names that the host layer has for itself. -/
def hostNames : List String := ["size", "stride", "random!", "stft"]

/-- The text without `start`, where it begins so. -/
def dropStart? (start text : List Char) : Option (List Char) :=
  if start.isPrefixOf text then some (text.drop start.length) else none

/-- The name with the host's mark for a mutator or a predicate. -/
def markedName (name : String) : String :=
  let cs := name.toList
  if cs.getLast? = some '_' then String.ofList (cs.dropLast ++ ['!'])
  else
    match dropStart? "is_".toList cs with
    | some rest => String.ofList (rest ++ ['?'])
    | none => name

/-- The marked name, kept apart from the host layer's own. -/
def apartName (name : String) : String :=
  if hostNames.contains name then "_" ++ name else name

/-- The public name of the operators with base name `name`. -/
def publicName (name : String) (surface : Surface) : String :=
  let visible := apartName (markedName name)
  if surface = .linalg then
    match dropStart? "linalg_".toList visible.toList with
    | some rest => String.ofList rest
    | none => visible
  else visible

end OpBindings
