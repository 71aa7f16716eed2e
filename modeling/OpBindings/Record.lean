/-
OpBindings.Record — one entry of a descriptor table.

A record holds the three fields that matter, as the table writes them:
nothing is checked yet. `Record.Mismatch` is what can be wrong with an entry
before its fields are known.
-/
import OpBindings.Text.Blank
import OpBindings.Text.Cut
import OpBindings.Text.Quoted

namespace OpBindings

/-- The surfaces that a record asks for: one text, or a list of names. -/
inductive VariantSpec where
  | oneText (text : String)
  | listed (names : List String)
deriving DecidableEq, Repr

/-- The names asked for, without the blanks around them. A single text
separates them by commas, and an empty place there is no name. -/
def VariantSpec.names : VariantSpec → List String
  | oneText text =>
    ((Text.cutEvery ',' text.toList).map Text.trim).filter (!·.isEmpty) |>.map String.ofList
  | listed names => names.map fun name => String.ofList (Text.trim name.toList)

/-- One entry of the table; other fields than these are ignored. -/
structure Record where
  declaration : Option String := none
  moduleTag : Option String := none
  variants : Option VariantSpec := none
deriving DecidableEq, Repr

namespace Record

/-- What stands in an entry where something else was expected. -/
inductive Found where
  | integer (text : String)
  | float (text : String)
  | boolean (value : Bool)
  | string (value : String)
  | null
  | sequence
  | mapping
deriving DecidableEq, Repr

/-- The name of what was found. -/
def Found.describe : Found → String
  | integer text => "integer `" ++ text ++ "`"
  | float text => "floating point `" ++ text ++ "`"
  | boolean value => "boolean `" ++ (if value then "true" else "false") ++ "`"
  | string value => "string " ++ Text.quoted value
  | null => "unit value"
  | sequence => "sequence"
  | mapping => "map"

/-- Why an entry is no record. -/
inductive Mismatch where
  | notRecord (found : Found)
  | notText (found : Found)
  | notKey (found : Found)
  | repeatedField (field : String)
  | notVariants
  | taggedVariants
deriving DecidableEq, Repr

/-- The text of a mismatch. -/
def Mismatch.message : Mismatch → String
  | notRecord found => "invalid type: " ++ found.describe ++ ", expected struct RawRecord"
  | notText found => "invalid type: " ++ found.describe ++ ", expected a string"
  | notKey found => "invalid type: " ++ found.describe ++ ", expected field identifier"
  | repeatedField field => "duplicate field `" ++ field ++ "`"
  | notVariants => "data did not match any variant of untagged enum RawVariants"
  | taggedVariants => "untagged and internally tagged enums do not support enum input"

end Record

end OpBindings
