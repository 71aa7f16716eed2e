/-
OpBindings.Decimal.Shortest — the shortest decimal that reads back as a number.

A number stands for every real that rounds to it: an interval around it,
with its ends if the mantissa is even. The shortest decimal is found on the
coarsest decimal grid that has a point in the interval; of two such points
the nearer one is taken, and the one farther from zero if both are equally
near. It is written without an exponent.
-/
import OpBindings.Decimal.Binary64

namespace OpBindings.Decimal

/-- A decimal `digits · 10^exponent`. -/
structure Digits where
  digits : Nat
  exponent : Int
deriving DecidableEq, Repr

namespace Binary64

/-- A quarter of the distance to the next number is the unit of the bounds. -/
def quarters (x : Binary64) (count : Nat) : Nat := count * Nat.pow 2 x.scale

/-- The least real that rounds to the number; the distance to the number
below is halved at a power of two. -/
def lowerBound (x : Binary64) : Nat :=
  if x.mantissa = leastMantissa && 0 < x.scale then x.quarters (4 * x.mantissa - 1)
  else x.quarters (4 * x.mantissa - 2)

/-- The greatest real that rounds to the number. -/
def upperBound (x : Binary64) : Nat := x.quarters (4 * x.mantissa + 2)

/-- The point of the grid of step `10^exponent` that reads back as the
number and is nearest to it; of two equally near the greater. -/
def pointOnGrid (x : Binary64) (exponent : Int) : Option Nat :=
  let stretch := Nat.pow 10 (-exponent).toNat
  let step := 4 * unit * Nat.pow 10 exponent.toNat
  let value := x.quarters (4 * x.mantissa) * stretch
  let reads (point : Nat) : Bool :=
    let low := x.lowerBound * stretch
    let high := x.upperBound * stretch
    if x.mantissa % 2 = 0 then low ≤ point * step && point * step ≤ high
    else low < point * step && point * step < high
  let below := value / step
  match reads below, reads (below + 1) with
  | true, true => some (if 2 * (value % step) < step then below else below + 1)
  | true, false => some below
  | false, true => some (below + 1)
  | false, false => none

/-- The number of digits before the decimal point; negative for a small fraction. -/
def magnitude (x : Binary64) : Int :=
  (Nat.toDigits 10 (x.quarters (4 * x.mantissa) * Nat.pow 10 400 / (4 * unit))).length - 400

/-- The first grid with a point, from `count` digits on. -/
def shortestFrom (x : Binary64) (count : Nat) : Nat → Digits
  | 0 => { digits := 0, exponent := 0 }
  | tries + 1 =>
    let exponent := x.magnitude - count
    match x.pointOnGrid exponent with
    | some digits => { digits, exponent }
    | none => shortestFrom x (count + 1) tries

/-- The shortest decimal; 17 digits are always enough. -/
def shortest (x : Binary64) : Digits :=
  if x.mantissa = 0 then { digits := 0, exponent := 0 } else shortestFrom x 1 17

end Binary64

namespace Digits

/-- The decimal without zeros at the end of its digits. -/
def stripped (d : Digits) : Nat → Digits
  | 0 => d
  | tries + 1 =>
    if d.digits ≠ 0 && d.digits % 10 = 0 then
      stripped { digits := d.digits / 10, exponent := d.exponent + 1 } tries
    else d

/-- The decimal with a point and at least one digit on either side of it. -/
def positional (d : Digits) : String :=
  let written := Nat.toDigits 10 d.digits
  if 0 ≤ d.exponent then
    String.ofList (written ++ List.replicate d.exponent.toNat '0') ++ ".0"
  else
    let places := (-d.exponent).toNat
    let padded := List.replicate (places + 1 - written.length) '0' ++ written
    String.ofList (padded.take (padded.length - places)) ++ "." ++
      String.ofList (padded.drop (padded.length - places))

end Digits

/-- The number as text: its shortest decimal, with a point and without an exponent. -/
def Binary64.text (x : Binary64) : String :=
  (if x.negative then "-" else "") ++ (x.shortest.stripped 20).positional

end OpBindings.Decimal
