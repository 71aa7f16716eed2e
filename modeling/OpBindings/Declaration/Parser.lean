/-
OpBindings.Declaration.Parser — reading a declaration.

The reader goes through the line once: name, parameter group, arrow,
results. The parameter group and the result list are then cut into items,
and each item is read by itself. The first malformation found ends the
reading, and the outer shape of the line is settled before any item is
looked at.
-/
import OpBindings.Declaration.Basic
import OpBindings.Declaration.Malformation
import OpBindings.Declaration.Nesting
import OpBindings.Text.Alphanumeric
import OpBindings.Text.Cut
import OpBindings.Text.Digits

namespace OpBindings.Declaration

open Text

/-! ## Words -/

/-- A character of a parameter or result name. -/
def isWordChar (c : Char) : Bool := isAlphanumeric c || c == '_'

/-- A character of an operator name, which may hold a dot before the overload's name. -/
def isNameChar (c : Char) : Bool := isAlphanumeric c || c == '_' || c == '.'

/-- At most one dot, and none at either end. -/
def isOverloadName (cs : List Char) : Bool :=
  cs.head? != some '.' && cs.getLast? != some '.' && cs.count '.' ≤ 1

/-- The operator name at the head of the text. -/
def cutName (cs : List Char) : Except Malformation (List Char × List Char) :=
  let name := cs.takeWhile isNameChar
  let rest := cs.dropWhile isNameChar
  if name.isEmpty then .error (.noName rest.head?)
  else if isOverloadName name then .ok (name, rest)
  else .error (.overloadName (String.ofList name))

/-! ## Types -/

/-- The type at the head of an item and the text after the blank that ends
it; a blank inside brackets belongs to the type. -/
def cutType (depth : Nat) : List Char → Option (List Char × List Char)
  | [] => none
  | c :: cs =>
    if isBlank c && depth == 0 then
      let rest := trim cs
      if rest.isEmpty then none else some ([], rest)
    else (cutType (bracketDepth depth c) cs).map fun (type, rest) => (c :: type, rest)

/-- The type without its alias annotation, and the annotation. -/
def cutAliasing (type : List Char) : Except Malformation (List Char × Option String) :=
  match cutAt '(' type with
  | none => .ok (type, none)
  | some (before, rest) =>
    match cutAt ')' rest with
    | none => .error (.unclosedAliasing (String.ofList type))
    | some (aliasing, after) => .ok (before ++ after, some (String.ofList aliasing))

/-- One more than the largest list size, which has 64 bits. -/
def sizeLimit : Nat := 18446744073709551616

/-- An unsigned 64-bit number: ASCII digits, with or without a plus sign. -/
def readSize (cs : List Char) : Option Nat :=
  match natural? 10 (if cs.head? = some '+' then cs.drop 1 else cs) with
  | none => none
  | some size => if size < sizeLimit then some size else none

/-- The `n` of a list type `T[n]`; `T[]` and a type without brackets have none. -/
def listSize (type : List Char) : Except Malformation (Option Nat) :=
  match cutAt '[' type with
  | none => .ok none
  | some (_, rest) =>
    match cutEnd ']' rest with
    | none => .error (.listType (String.ofList type))
    | some [] => .ok none
    | some inner =>
      match readSize inner with
      | none => .error (.listSize (String.ofList type))
      | some size => .ok (some size)

/-! ## Items -/

/-- The name after a type, and the default if there is one. -/
def cutDefault (rest : List Char) : List Char × Option String :=
  match cutAt '=' rest with
  | some (name, default) => (trim name, some (String.ofList (trim default)))
  | none => (rest, none)

/-- One parameter of the list; `item` is trimmed and not empty. -/
def readParam (keywordOnly : Bool) (item : List Char) : Except Malformation Param :=
  match cutType 0 item with
  | none => .error (.unnamedParam (String.ofList item))
  | some (written, rest) =>
    let (name, default) := cutDefault rest
    if name.isEmpty || !name.all isWordChar then .error (.paramName (String.ofList item))
    else do
      let (type, aliasing) ← cutAliasing (written.filter (· != '?'))
      let size ← listSize type
      .ok {
        name := String.ofList name
        type := String.ofList type
        optional := written.contains '?'
        default, aliasing, keywordOnly
        listSize := size }

/-- The parameters of a list; those after the `*` can only be passed by name. -/
def readParams (keywordOnly : Bool) : List (List Char) → Except Malformation (List Param)
  | [] => .ok []
  | item :: items =>
    if item = ['*'] then
      if keywordOnly then .error .repeatedMarker else readParams true items
    else if item.isEmpty then .error .emptyParam
    else do
      let param ← readParam keywordOnly item
      let params ← readParams keywordOnly items
      .ok (param :: params)

/-- One result of the list; its name may be missing. -/
def readResult (item : List Char) : Except Malformation Result :=
  if item.isEmpty then .error .emptyResult
  else do
    let (written, name) ←
      match cutType 0 item with
      | none => .ok (item, none)
      | some (written, name) =>
        if name.all isWordChar then .ok (written, some (String.ofList name))
        else .error (.resultName (String.ofList item))
    let (type, aliasing) ← cutAliasing written
    .ok { name, type := String.ofList type, aliasing }

/-- The items of a result text: one alone, or a list in parentheses. -/
def resultItems (text : List Char) : Except Malformation (List (List Char)) :=
  match text with
  | '(' :: rest =>
    match cutEnd ')' rest with
    | none => .error (.resultList (String.ofList text))
    | some inner => .ok (splitCommas inner)
  | _ => .ok [text]

/-! ## The line -/

/-- What a line says, still in characters: name, parameter list and results. -/
structure Outline where
  name : List Char
  params : List Char
  results : List Char

/-- The parameter group at the head of the text, and what follows it. -/
def cutGroup : List Char → Except Malformation (List Char × List Char)
  | '(' :: rest =>
    match Nesting.outside.group rest with
    | some found => .ok found
    | none => .error .unclosedParameterList
  | rest => .error (.noParameterList rest.head?)

/-- The outer shape of a line. -/
def outline (cs : List Char) : Except Malformation Outline := do
  let (name, rest) ← cutName (dropBlanks cs)
  let (params, rest) ← cutGroup rest
  match dropBlanks rest with
  | '-' :: '>' :: rest =>
    let results := trim rest
    if results.isEmpty then .error .noResults else .ok { name, params, results }
  | rest => .error (.noArrow rest.head?)

/-- The declaration that a line of characters writes. -/
def ofChars (cs : List Char) : Except Malformation Declaration := do
  let line ← outline cs
  let params ← readParams false (splitCommas line.params)
  let items ← resultItems line.results
  let results ← items.mapM readResult
  .ok { name := String.ofList line.name, params, results }

/-- The declaration that a text writes. -/
def parse (text : String) : Except Malformation Declaration := ofChars text.toList

/-- A text that is given by its characters is read without being decoded. -/
theorem parse_ofList (cs : List Char) : parse (String.ofList cs) = ofChars cs := by
  rw [parse, String.toList_ofList]

end OpBindings.Declaration
