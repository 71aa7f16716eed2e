/-
OpBindings.Text.Digits — numbers written in digits.
-/

namespace OpBindings.Text

/-- The value of a digit of a base up to sixteen; sixteen for any other character. -/
def digitValue (c : Char) : Nat :=
  if c.isDigit then c.toNat - '0'.toNat
  else if 'a' ≤ c && c ≤ 'f' then c.toNat - 'a'.toNat + 10
  else if 'A' ≤ c && c ≤ 'F' then c.toNat - 'A'.toNat + 10
  else 16

/-- The number that digits of a base write; there is at least one digit. -/
def natural? (base : Nat) (digits : List Char) : Option Nat :=
  if digits.isEmpty || !digits.all (digitValue · < base) then none
  else some (digits.foldl (fun value c => base * value + digitValue c) 0)

example : natural? 16 ['f', 'F'] = some 255 := by decide

example : natural? 10 ['1', 'a'] = none := by decide

end OpBindings.Text
