/-
OpBindings.Declaration.Malformation — what can be wrong with a declaration.
-/
import OpBindings.Text.Quoted

namespace OpBindings.Declaration

/-- Why a text is no declaration. -/
inductive Malformation where
  | noName (found : Option Char)
  | overloadName (name : String)
  | noParameterList (found : Option Char)
  | unclosedParameterList
  | noArrow (found : Option Char)
  | noResults
  | repeatedMarker
  | emptyParam
  | unnamedParam (item : String)
  | paramName (item : String)
  | unclosedAliasing (type : String)
  | listType (type : String)
  | listSize (type : String)
  | resultList (text : String)
  | emptyResult
  | resultName (item : String)
deriving DecidableEq, Repr

/-- The text of a malformation. -/
def Malformation.message : Malformation → String
  | noName found => "Expected function name but found " ++ Text.quotedOption found
  | overloadName name => "Malformed overload name '" ++ name ++ "'"
  | noParameterList found => "Expected '(' but found " ++ Text.quotedOption found
  | unclosedParameterList => "Unbalanced '(' in signature"
  | noArrow found => "Expected '->' after parameter list but found " ++ Text.quotedOption found
  | noResults => "Expected return type after '->'"
  | repeatedMarker => "Duplicate keyword-only marker '*'"
  | emptyParam => "Empty parameter"
  | unnamedParam item => "Parameter '" ++ item ++ "' has no name"
  | paramName item => "Invalid parameter name in '" ++ item ++ "'"
  | unclosedAliasing type => "Unterminated alias annotation in '" ++ type ++ "'"
  | listType type => "Malformed list type '" ++ type ++ "'"
  | listSize type => "Malformed list size in '" ++ type ++ "'"
  | resultList text => "Malformed return list '" ++ text ++ "'"
  | emptyResult => "Empty return value"
  | resultName item => "Malformed return value '" ++ item ++ "'"

end OpBindings.Declaration
