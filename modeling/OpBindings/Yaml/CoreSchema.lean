/-
OpBindings.Yaml.CoreSchema — what an unquoted word of a document means.

The core schema reads a word as null, a boolean, an integer or a float by
its form, and as text otherwise. Integers have 64 bits; one that needs more,
up to 128, is refused, and beyond that a word of digits is a float.
-/
import OpBindings.Decimal.Shortest
import OpBindings.Text.Digits

namespace OpBindings.Yaml

/-- A floating-point number of a document. -/
inductive Floating where
  | finite (x : Decimal.Binary64)
  | infinite (negative : Bool)
  | nan
deriving DecidableEq, Repr

namespace Floating

def text : Floating → String
  | finite x => x.text
  | infinite negative => if negative then "-inf" else "inf"
  | nan => "NaN"

/-- Equality of keys: zeros are equal whatever their sign, and so are all that are no numbers. -/
def sameKey : Floating → Floating → Bool
  | finite a, finite b => a.sameNumber b
  | infinite a, infinite b => a == b
  | nan, nan => true
  | _, _ => false

end Floating

/-- The meaning of a word. -/
inductive Meaning where
  | null
  | boolean (value : Bool)
  | integer (value : Int)
  | float (value : Floating)
  | text
  /-- An integer of more than 64 bits. -/
  | outOfRange
deriving DecidableEq, Repr

namespace CoreSchema

open Text (natural?)

def isNull (word : String) : Bool := ["", "null", "Null", "NULL", "~"].contains word

def boolean? (word : String) : Option Bool :=
  if ["true", "True", "TRUE"].contains word then some true
  else if ["false", "False", "FALSE"].contains word then some false
  else none

/-! ## Integers -/

/-- The sign of a word and the rest of it. -/
def cutSign : List Char → Option Char × List Char
  | '+' :: rest => (some '+', rest)
  | '-' :: rest => (some '-', rest)
  | rest => (none, rest)

/-- Several digits that begin with a zero are no decimal number. -/
def isPaddedDigits (digits : List Char) : Bool :=
  1 < digits.length && digits.head? == some '0' && digits.all Char.isDigit

/-- The size of the integer that a word writes without its sign. -/
def magnitude? : List Char → Option Nat
  | '0' :: 'x' :: digits => natural? 16 digits
  | '0' :: 'o' :: digits => natural? 8 digits
  | '0' :: 'b' :: digits => natural? 2 digits
  | digits => if isPaddedDigits digits then none else natural? 10 digits

/-- The integer that a word writes. -/
def integer? (word : List Char) : Option Int :=
  match cutSign word with
  | (some '-', digits) => (magnitude? digits).map fun value => -(value : Int)
  | (_, digits) => (magnitude? digits).map fun value => (value : Int)

/-! ## Floats -/

/-- A number without a sign: digits with a point somewhere, and an exponent
of ten that may be left out. -/
def decimal? (cs : List Char) : Option (Nat × Int) := do
  let whole := cs.takeWhile Char.isDigit
  let rest := cs.dropWhile Char.isDigit
  let (fraction, rest) :=
    match rest with
    | '.' :: rest => (rest.takeWhile Char.isDigit, rest.dropWhile Char.isDigit)
    | rest => ([], rest)
  let digits ← natural? 10 (whole ++ fraction)
  let exponent ←
    match rest with
    | [] => some 0
    | e :: rest =>
      if e = 'e' || e = 'E' then
        match cutSign rest with
        | (some '-', power) => (natural? 10 power).map fun value => -(value : Int)
        | (_, power) => (natural? 10 power).map fun value => (value : Int)
      else none
  some (digits, exponent - fraction.length)

def infinityWords : List String := [".inf", ".Inf", ".INF"]

def nanWords : List String := [".nan", ".NaN", ".NAN"]

/-- The float that a word writes; a decimal too large for a number writes none. -/
def float? (word : List Char) : Option Floating :=
  let (sign, rest) := cutSign word
  if infinityWords.contains (String.ofList rest) then some (.infinite (sign == some '-'))
  else if nanWords.contains (String.ofList word) then some .nan
  else do
    let (digits, exponent) ← decimal? rest
    (Decimal.Binary64.ofDecimal (sign == some '-') digits exponent).map .finite

/-- A word of digits with a sign or without one, padded with zeros. -/
def isPadded (word : List Char) : Bool := isPaddedDigits (cutSign word).2

/-! ## Words -/

/-- Whether an integer fits into so many bits, with a sign or without. -/
def hasBits (bits : Nat) (value : Int) : Bool :=
  -(Nat.pow 2 (bits - 1) : Nat) ≤ value && value < (Nat.pow 2 bits : Nat)

/-- The integer as a meaning, by the bits that it needs. -/
def integerMeaning? (value : Int) : Option Meaning :=
  if hasBits 64 value then some (.integer value)
  else if hasBits 128 value then some .outOfRange
  else none

/-- What an unquoted word means. -/
def meaning (word : String) : Meaning :=
  let cs := word.toList
  if isNull word then .null
  else
    match boolean? word with
    | some value => .boolean value
    | none =>
      match (integer? cs).bind integerMeaning? with
      | some meaning => meaning
      | none =>
        if isPadded cs then .text
        else
          match float? cs with
          | some value => .float value
          | none => .text

end CoreSchema

end OpBindings.Yaml
