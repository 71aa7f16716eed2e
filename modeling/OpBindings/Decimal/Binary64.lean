/-
OpBindings.Decimal.Binary64 — binary floating point of 64 bits, exactly.

A finite number is `mantissa · 2^scale / 2^1074`, so that the smallest
positive one has mantissa 1 and scale 0. A decimal is rounded to the nearest
number, a tie to the even mantissa, by arithmetic on natural numbers.
-/

namespace OpBindings.Decimal

/-- A finite number with its sign; zero has two. -/
structure Binary64 where
  negative : Bool
  mantissa : Nat
  scale : Nat
deriving DecidableEq, Repr

namespace Binary64

/-- The power of two that counts as one. -/
def unit : Nat := Nat.pow 2 1074

/-- The least mantissa of a number whose scale is not zero. -/
def leastMantissa : Nat := Nat.pow 2 52

/-- The largest scale of a finite number. -/
def maxScale : Nat := 2045

/-- The quotient to the nearest whole number, a tie to the even one. -/
def roundedQuotient (n d : Nat) : Nat :=
  let q := n / d
  let twice := 2 * (n % d)
  if d < twice || (twice = d && q % 2 = 1) then q + 1 else q

/-- The number nearest to `n / d`, or nothing where that is too large. -/
def ofRatio (negative : Bool) (n d : Nat) : Option Binary64 :=
  let whole := n * unit / d
  let scale := (whole.log2 + 1) - 53
  let mantissa := roundedQuotient (n * unit) (d * Nat.pow 2 scale)
  let (mantissa, scale) :=
    if mantissa = 2 * leastMantissa then (leastMantissa, scale + 1) else (mantissa, scale)
  if maxScale < scale then none else some { negative, mantissa, scale }

/-- The number nearest to `digits · 10^exponent`, or nothing where that is
too large. Exponents far outside the range are decided without computing. -/
def ofDecimal (negative : Bool) (digits : Nat) (exponent : Int) : Option Binary64 :=
  let size : Int := (Nat.toDigits 10 digits).length + exponent
  if digits = 0 || size < -330 then some { negative, mantissa := 0, scale := 0 }
  else if 310 < size then none
  else ofRatio negative (digits * Nat.pow 10 exponent.toNat) (Nat.pow 10 (-exponent).toNat)

/-- Equality of numbers: the sign of zero does not count. -/
def sameNumber (a b : Binary64) : Bool :=
  a.mantissa == b.mantissa && a.scale == b.scale && (a.negative == b.negative || a.mantissa == 0)

example : ofDecimal false 1 0 = some ⟨false, leastMantissa, 1022⟩ := by decide +kernel

example : ofDecimal false 1 400 = none := by decide +kernel

end Binary64

end OpBindings.Decimal
