/-
OpBindings.Text.Quoted — text as a message shows it, between quotes.

A message that names a character or a string shows it on one line and
without doubt about what it is: the quote, the backslash and the usual
control characters are escaped by name, and what cannot be printed by its
number.
-/
import OpBindings.Text.Unprintable

namespace OpBindings.Text

/-- One character as it stands between two `quote` marks. -/
def escaped (quote c : Char) : String :=
  if c = '\x00' then "\\0"
  else if c = '\t' then "\\t"
  else if c = '\n' then "\\n"
  else if c = '\r' then "\\r"
  else if c = '\\' || c = quote then String.ofList ['\\', c]
  else if isUnprintable c then
    "\\u\x7b" ++ String.ofList (Nat.toDigits 16 c.toNat) ++ "\x7d"
  else c.toString

/-- The string between double quotes. -/
def quoted (s : String) : String :=
  "\"" ++ String.join (s.toList.map (escaped '"')) ++ "\""

/-- The character that was met, or that the text had ended. -/
def quotedOption : Option Char → String
  | none => "None"
  | some c => "Some('" ++ escaped '\'' c ++ "')"

end OpBindings.Text
