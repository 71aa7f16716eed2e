/-
OpBindings.Proofs.Declaration.Printer — writing a declaration.

One declaration can be written in many ways: blanks may stand around every
separator, the `?` of an optional parameter on either side of the brackets, and
a single result in parentheses or without. A `Layout` is one choice of all
this, and `print` writes the declaration so.

`IsPrintable` says which declarations can be written: words for names and
types, annotations without marks of nesting, and defaults that close what they
open, and nothing else, and show no comma.
-/
import OpBindings.Proofs.Declaration.Nesting

namespace OpBindings.Declaration

open Nesting Text

/-! ## What is free -/

/-- Blanks, perhaps none. -/
structure Blanks where
  chars : List Char
  blank : ∀ c ∈ chars, isBlank c = true := by decide

/-- Blanks that keep two words apart. -/
structure Gap extends Blanks where
  nonempty : chars ≠ [] := by decide

/-- The blanks around a part of the line. -/
structure Margin where
  before : Blanks
  after : Blanks

/-- Where the `?` of an optional parameter stands. -/
inductive OptionalPlace where
  | afterWord
  | beforeBrackets
  | afterBrackets
deriving DecidableEq, Repr

/-- How one parameter is written. -/
structure ParamLayout where
  around : Margin
  place : OptionalPlace
  /-- Between the type and the name. -/
  gap : Gap
  /-- Around the `=`. -/
  sign : Margin

/-- How one result is written. -/
structure ResultLayout where
  /-- Around a result that stands in parentheses. -/
  around : Margin
  /-- Between the type and the name. -/
  gap : Gap

/-- How a declaration is written. -/
structure Layout where
  around : Margin
  /-- Around the `->`. -/
  arrow : Margin
  /-- The layout of each parameter, by its place. -/
  params : Nat → ParamLayout
  /-- Around the `*`. -/
  marker : Margin
  /-- Between the parentheses of an empty list of parameters. -/
  noParams : Blanks
  /-- The layout of each result, by its place. -/
  results : Nat → ResultLayout
  /-- Between the parentheses of an empty list of results. -/
  noResults : Blanks
  /-- A single result stands in parentheses too. -/
  wrapsResult : Bool

/-! ## The text -/

/-- The text with blanks around it. -/
def Margin.put (m : Margin) (text : List Char) : List Char :=
  m.before.chars ++ (text ++ m.after.chars)

/-- The word of a type, without its brackets. -/
def typeWord (type : List Char) : List Char := type.takeWhile (· != '[')

/-- The brackets of a type and what stands in them. -/
def typeBrackets (type : List Char) : List Char := type.dropWhile (· != '[')

/-- The annotation in its parentheses. -/
def aliasChars : Option String → List Char
  | none => []
  | some aliasing => '(' :: (aliasing.toList ++ [')'])

/-- The `?`, if it stands here. -/
def markChars : Bool → List Char
  | false => []
  | true => ['?']

/-- The type with its annotation, and with a `?` at one of three places. -/
def printType (type : List Char) (aliasing : Option String) (optional : Bool)
    (place : OptionalPlace) : List Char :=
  let mark (here : OptionalPlace) := markChars (optional && decide (place = here))
  typeWord type ++ (mark .afterWord ++ (aliasChars aliasing ++ (mark .beforeBrackets ++
    (typeBrackets type ++ mark .afterBrackets))))

/-- The default with the `=` before it. -/
def printDefault (sign : Margin) : Option String → List Char
  | none => []
  | some text => sign.put ['='] ++ text.toList

def printParam (l : ParamLayout) (p : Param) : List Char :=
  printType p.type.toList p.aliasing p.optional l.place ++
    (l.gap.chars ++ (p.name.toList ++ printDefault l.sign p.default))

/-- The parameters from `index` on, with a `*` before the first one that is passed by name. -/
def printParams (l : Layout) (index : Nat) (byName : Bool) : List Param → List (List Char)
  | [] => []
  | p :: ps =>
    let item := (l.params index).around.put (printParam (l.params index) p)
    let items := printParams l (index + 1) (byName || p.keywordOnly) ps
    if p.keywordOnly && !byName then l.marker.put ['*'] :: item :: items else item :: items

/-- The name of a result, if it has one. -/
def printName (gap : Gap) : Option String → List Char
  | none => []
  | some name => gap.chars ++ name.toList

def printResult (l : ResultLayout) (r : Result) : List Char :=
  printType r.type.toList r.aliasing false .afterWord ++ printName l.gap r.name

/-- The results from `index` on, as they stand in parentheses. -/
def printResults (l : Layout) (index : Nat) : List Result → List (List Char)
  | [] => []
  | r :: rs =>
    (l.results index).around.put (printResult (l.results index) r) :: printResults l (index + 1) rs

/-- Items with commas between them; without items there are only blanks. -/
def printItems (empty : Blanks) : List (List Char) → List Char
  | [] => empty.chars
  | items => [','].intercalate items

/-- What follows the arrow. -/
def printResultText (l : Layout) (results : List Result) : List Char :=
  let wrapped := '(' :: (printItems l.noResults (printResults l 0 results) ++ [')'])
  match results with
  | [r] => if l.wrapsResult then wrapped else printResult (l.results 0) r
  | _ => wrapped

/-- The line. -/
def printChars (l : Layout) (d : Declaration) : List Char :=
  l.around.put (d.name.toList ++ '(' :: (printItems l.noParams (printParams l 0 false d.params) ++
    ')' :: (l.arrow.put ['-', '>'] ++ printResultText l d.results)))

/-- The text of a declaration in a layout. -/
def print (l : Layout) (d : Declaration) : String := String.ofList (printChars l d)

/-! ## What can be written -/

/-- Letters, numbers and `_`, at least one of them. -/
structure IsWord (cs : List Char) : Prop where
  nonempty : cs ≠ []
  plain : ∀ c ∈ cs, isWordChar c = true

/-- A word, or two with a dot between them. -/
def IsOperatorName (cs : List Char) : Prop :=
  ∃ base, IsWord base ∧ (cs = base ∨ ∃ overload, IsWord overload ∧ cs = base ++ '.' :: overload)

instance (cs : List Char) : Decidable (IsWord cs) :=
  decidable_of_iff (cs ≠ [] ∧ ∀ c ∈ cs, isWordChar c = true)
    ⟨fun ⟨nonempty, plain⟩ => ⟨nonempty, plain⟩, fun ⟨nonempty, plain⟩ => ⟨nonempty, plain⟩⟩

/-- The brackets of a list type with what stands in them. -/
def bracketed : Option (List Char) → List Char
  | none => []
  | some inside => '[' :: (inside ++ [']'])

/-- The list size that stands in the brackets. -/
def sizeInside : Option (List Char) → Option Nat
  | none | some [] => none
  | some digits => some (Nat.ofDigitChars 10 digits 0)

/-- The type is a word, perhaps with brackets that hold nothing but digits. -/
structure IsTypeText (type : List Char) (inside : Option (List Char)) : Prop where
  word : ∃ word, IsWord word ∧ type = word ++ bracketed inside
  digits : ∀ digits ∈ inside, ∀ c ∈ digits, c.isDigit = true

/-- The annotation holds no quote, no bracket and no `?`. -/
def IsAliasText (aliasing : Option String) : Prop :=
  ∀ text ∈ aliasing, ∀ c ∈ text.toList, isMark c = false ∧ c ≠ '?'

/-- The text closes what it opens, shows no comma, and closes no parenthesis besides. -/
structure IsEnclosed (cs : List Char) : Prop extends IsItem cs where
  closesNoOther : outside.hides ')' cs

/-- A default that can be written: an enclosed text without blanks around it. -/
structure IsDefault (cs : List Char) : Prop extends IsEnclosed cs where
  trimmed : trim cs = cs

instance (cs : List Char) : Decidable (IsDefault cs) :=
  decidable_of_iff ((outside.after cs = outside ∧ outside.hides ',' cs) ∧
      outside.hides ')' cs ∧ trim cs = cs)
    ⟨fun ⟨⟨closes, commas⟩, other, trimmed⟩ => ⟨⟨⟨closes, commas⟩, other⟩, trimmed⟩,
      fun ⟨⟨⟨closes, commas⟩, other⟩, trimmed⟩ => ⟨⟨closes, commas⟩, other, trimmed⟩⟩

/-- The parameter can be written. -/
structure IsPrintableParam (p : Param) : Prop where
  name : IsWord p.name.toList
  type : ∃ inside, IsTypeText p.type.toList inside ∧ p.listSize = sizeInside inside
  size : ∀ size ∈ p.listSize, size < sizeLimit
  aliasing : IsAliasText p.aliasing
  default : ∀ text ∈ p.default, IsDefault text.toList

/-- The result can be written. -/
structure IsPrintableResult (r : Result) : Prop where
  name : ∀ name ∈ r.name, IsWord name.toList
  type : ∃ inside, IsTypeText r.type.toList inside
  aliasing : IsAliasText r.aliasing

/-- The declaration can be written: its parts can, and those parameters come
last that are passed by name. -/
structure IsPrintable (d : Declaration) : Prop where
  name : IsOperatorName d.name.toList
  params : ∀ p ∈ d.params, IsPrintableParam p
  keywordsLast : d.params.Pairwise fun p q => p.keywordOnly = true → q.keywordOnly = true
  results : ∀ r ∈ d.results, IsPrintableResult r

end OpBindings.Declaration
