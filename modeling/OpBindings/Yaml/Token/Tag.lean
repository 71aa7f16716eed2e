/-
OpBindings.Yaml.Token.Tag — reading anchors, tags and directives.
-/
import OpBindings.Text.Digits
import OpBindings.Yaml.Cursor
import OpBindings.Yaml.Token

namespace OpBindings.Yaml

/-! ## Anchors and aliases -/

/-- A character that may follow the name of an anchor, beside blanks. -/
def isAnchorEnd (c : Char) : Bool := ['?', ':', ',', ']', '\x7d', '%', '@', '\x60'].contains c

/-- The name of an anchor or alias; the next character is its indicator. -/
def anchorName? (c : Cursor) : Option (String × Cursor) :=
  let (name, c) := (c.skip 1).takeWhile isNameChar
  if name.isEmpty || !(startsBlank c.rest || c.rest.head?.any isAnchorEnd) then none
  else some (String.ofList name, c)

/-! ## The text of a tag -/

/-- A character of a tag; a tag between brackets may hold flow marks too. -/
def isTagChar (bracketed : Bool) (c : Char) : Bool :=
  isNameChar c || ";/?:@&=+$.%!~*'()".toList.contains c || (bracketed && ",[]".toList.contains c)

/-- An octet in two hexadecimal digits behind a percent sign. -/
def percentOctet? : List Char → Option UInt8
  | '%' :: high :: low :: _ => (Text.natural? 16 [high, low]).map UInt8.ofNat
  | _ => none

/-- The number of octets of the character that starts with `octet`. -/
def octetCount? (octet : UInt8) : Option Nat :=
  if octet < 0x80 then some 1
  else if octet &&& 0xE0 == 0xC0 then some 2
  else if octet &&& 0xF0 == 0xE0 then some 3
  else if octet &&& 0xF8 == 0xF0 then some 4
  else none

/-- `count` escaped octets that continue a character. -/
def continuation? (rest : List Char) : Nat → Option (List UInt8)
  | 0 => some []
  | count + 1 => do
    let octet ← percentOctet? rest
    if octet &&& 0xC0 != 0x80 then none
    else return octet :: (← continuation? (rest.drop 3) count)

/-- The octets of one escaped character. -/
def escapedOctets? (rest : List Char) : Option (List UInt8) := do
  let first ← percentOctet? rest
  let count ← octetCount? first
  return first :: (← continuation? (rest.drop 3) (count - 1))

/-- The text of a tag in octets, from here as far as it goes. Every step
takes a character of a tag at least, so the limit is how many there are. -/
def tagOctets? (bracketed : Bool) (c : Cursor) : Nat → Option (List UInt8 × Cursor)
  | 0 => some ([], c)
  | chars + 1 =>
    match c.rest with
    | [] => some ([], c)
    | ch :: rest =>
      if !isTagChar bracketed ch then some ([], c)
      else do
        let octets ←
          if ch = '%' then escapedOctets? (ch :: rest) else some ch.toString.toUTF8.toList
        let length := if ch = '%' then 3 * octets.length else 1
        let (more, c) ← tagOctets? bracketed (c.skip length) chars
        return (octets ++ more, c)

/-- A tag reaches to its first zero octet. -/
def untilZero (octets : List UInt8) : List UInt8 := octets.takeWhile (· != 0)

/-- The text of a tag in octets. -/
def tagText? (bracketed : Bool) (c : Cursor) : Option (List UInt8 × Cursor) :=
  tagOctets? bracketed c (c.rest.takeWhile (isTagChar bracketed)).length

/-! ## Tags -/

/-- The handle here: `!`, and with a name and another `!` behind it the whole of it. -/
def tagHandle (c : Cursor) : String × Cursor :=
  let (name, after) := (c.skip 1).takeWhile isNameChar
  if after.rest.head? = some '!' then ("!" ++ String.ofList name ++ "!", after.skip 1)
  else ("!" ++ String.ofList name, after)

/-- The tag here, without a look at what follows; the next character is its `!`. -/
def tagWord? (c : Cursor) : Option (TagWord × Cursor) :=
  if (c.rest.drop 1).head? = some '<' then do
    let (suffix, c) ← tagText? true (c.skip 2)
    if suffix.isEmpty || c.rest.head? ≠ some '>' then none
    else some ({ handle := "", suffix := untilZero suffix }, c.skip 1)
  else
    let (handle, c) := tagHandle c
    if handle ≠ "!" && handle.toList.getLast? = some '!' then do
      let (suffix, c) ← tagText? false c
      if suffix.isEmpty then none else some ({ handle, suffix := untilZero suffix }, c)
    else do
      let (more, c) ← tagText? false c
      let suffix := untilZero ((handle.drop 1).toString.toUTF8.toList ++ more)
      if suffix.isEmpty then some ({ handle := "", suffix := "!".toUTF8.toList }, c)
      else some ({ handle := "!", suffix }, c)

/-- The tag here. A blank follows it, or a comma inside flow brackets. -/
def tag? (inFlow : Bool) (c : Cursor) : Option (TagWord × Cursor) := do
  let (word, c) ← tagWord? c
  if startsBlank c.rest || (inFlow && c.rest.head? = some ',') then some (word, c) else none

/-! ## Directives -/

/-- A number of at most nine digits. -/
def versionNumber? (c : Cursor) : Option (Nat × Cursor) := do
  let (digits, c) := c.takeWhile Char.isDigit
  let number ← Text.natural? 10 digits
  if digits.length ≤ 9 then some (number, c) else none

/-- The version that a directive names. -/
def versionDirective? (c : Cursor) : Option (Token × Cursor) := do
  let (major, c) ← versionNumber? (c.skipWhile isSpacing)
  if c.rest.head? ≠ some '.' then none
  else
    let (minor, c) ← versionNumber? (c.skip 1)
    some (.versionDirective major minor, c)

/-- The handle that a directive declares, and what it stands for. -/
def tagDirective? (c : Cursor) : Option (Token × Cursor) := do
  let c := c.skipWhile isSpacing
  if c.rest.head? ≠ some '!' then none
  else
    let (handle, c) := tagHandle c
    if handle.toList.getLast? ≠ some '!' || !c.rest.head?.any isSpacing then none
    else
      let (meant, c) ← tagText? true (c.skipWhile isSpacing)
      if meant.isEmpty || !startsBlank c.rest then none
      else some (.tagDirective handle (untilZero meant), c)

/-- The directive here, with the rest of its line; the next character is its `%`. -/
def directive? (c : Cursor) : Option (Token × Cursor) := do
  let (name, c) := (c.skip 1).takeWhile isNameChar
  if !startsBlank c.rest then none
  else
    let (token, c) ←
      if name = "YAML".toList then versionDirective? c
      else if name = "TAG".toList then tagDirective? c
      else none
    let c := c.skipComment
    if startsBreak c.rest then some (token, c.next) else none

end OpBindings.Yaml
