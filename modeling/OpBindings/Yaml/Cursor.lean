/-
OpBindings.Yaml.Cursor — a place in the text of a document.

A cursor knows the text from its place on, and the place by line and column.
`Cursor.ofText?` refuses a text with a character that no document may hold,
and makes every line break one character. A byte order mark is a character
like any other here; where a token may begin at the start of a line, it is
passed over.
-/

namespace OpBindings.Yaml

/-! ## Characters -/

/-- A character that ends a line; the usual breaks are line feeds by now. -/
def isBreak (c : Char) : Bool := c = '\n' || c = '\u2028' || c = '\u2029'

/-- A character that separates on a line. -/
def isSpacing (c : Char) : Bool := c = ' ' || c = '\t'

/-- Whether the text begins with a space, a break or its end. -/
def startsBlank : List Char → Bool
  | [] => true
  | c :: _ => isSpacing c || isBreak c

/-- Whether the text begins with a break or its end. -/
def startsBreak : List Char → Bool
  | [] => true
  | c :: _ => isBreak c

/-- A character of a plain name: an ASCII letter or digit, `_` or `-`. -/
def isNameChar (c : Char) : Bool := c.isAlphanum || c = '_' || c = '-'

/-- A character that a document may hold. -/
def isAllowed (c : Char) : Bool :=
  c = '\t' || c = '\n' || c = '\r' || ('\x20' ≤ c && c ≤ '\x7e') || c = '\u0085' ||
    (0xA0 ≤ c.toNat && c.toNat ≤ 0xD7FF) || (0xE000 ≤ c.toNat && c.toNat ≤ 0xFFFD) ||
    0x10000 ≤ c.toNat

/-- The text with a line feed for each carriage return, line feed, pair of them, and next line. -/
def unifyBreaks : List Char → List Char
  | [] => []
  | '\r' :: '\n' :: rest => '\n' :: unifyBreaks rest
  | c :: rest => (if c = '\r' || c = '\u0085' then '\n' else c) :: unifyBreaks rest

/-- The number of octets that characters take. -/
def octets (cs : List Char) : Nat := cs.foldl (· + ·.utf8Size) 0

/-! ## Places -/

/-- A place in a text. -/
structure Cursor where
  /-- The text from here on. -/
  rest : List Char
  line : Nat := 0
  column : Nat := 0
  /-- The octets of the line before the place. -/
  offset : Nat := 0
deriving Repr

namespace Cursor

/-- The start of a text. -/
def ofText? (text : String) : Option Cursor :=
  let cs := text.toList
  if cs.all isAllowed then some { rest := unifyBreaks cs } else none

/-- The place `count` characters further on the line. -/
def skip (c : Cursor) (count : Nat) : Cursor :=
  { c with rest := c.rest.drop count
           column := c.column + count
           offset := c.offset + octets (c.rest.take count) }

/-- The start of the next line; the next character is a break. -/
def skipBreak (c : Cursor) : Cursor :=
  { rest := c.rest.drop 1, line := c.line + 1 }

/-- The place behind the next character, whatever it is. -/
def next (c : Cursor) : Cursor :=
  match c.rest with
  | [] => c
  | ch :: _ => if isBreak ch then c.skipBreak else c.skip 1

/-- Whether a line begins here with the mark that starts or ends a document. -/
def atDocumentMark (c : Cursor) : Bool :=
  c.column == 0 &&
    match c.rest with
    | '-' :: '-' :: '-' :: rest => startsBlank rest
    | '.' :: '.' :: '.' :: rest => startsBlank rest
    | _ => false

/-- The place of the next character that `p` does not hold of, on this line. -/
def skipWhile (c : Cursor) (p : Char → Bool) : Cursor :=
  c.skip (c.rest.takeWhile p).length

/-- The characters that `p` holds of, and the place behind them. -/
def takeWhile (c : Cursor) (p : Char → Bool) : List Char × Cursor :=
  (c.rest.takeWhile p, c.skipWhile p)

/-- The end of the line, from a place where a comment may follow. -/
def skipComment (c : Cursor) : Cursor :=
  let c := c.skipWhile isSpacing
  if c.rest.head? = some '#' then c.skipWhile (!isBreak ·) else c

theorem length_skip (c : Cursor) (count : Nat) :
    (c.skip count).rest.length = c.rest.length - count := by
  simp [skip]

theorem length_skipBreak (c : Cursor) : c.skipBreak.rest.length = c.rest.length - 1 := by
  simp [skipBreak]

theorem length_next (c : Cursor) : c.next.rest.length = c.rest.length - 1 := by
  unfold next
  split
  · next h => simp [h]
  · next h =>
    split
    · exact length_skipBreak c
    · exact length_skip c 1

end Cursor

end OpBindings.Yaml
