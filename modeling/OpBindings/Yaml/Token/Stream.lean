/-
OpBindings.Yaml.Token.Stream — cutting a document into tokens.

A block's tokens follow its indentation: deeper text opens a block, and
shallower text closes those around it. A key without a `?` is only known
as a key when its `:` comes, so every place where one can begin is kept as a
`PossibleKey`, and the tokens that open the key are put in there later.
-/
import OpBindings.Yaml.Token.Scalar
import OpBindings.Yaml.Token.Tag

namespace OpBindings.Yaml

/-- A place where a key without an indicator may have begun. -/
structure PossibleKey where
  /-- The block can only go on with a key here. -/
  required : Bool
  /-- The number of tokens before it. -/
  tokens : Nat
  place : Cursor

/-- The longest key without an indicator, in octets. -/
def maxKeyLength : Nat := 1024

/-- The tokens found so far, and what has to be remembered to find more. -/
structure Tokens where
  place : Cursor
  /-- The tokens, last first. -/
  found : List Token := []
  count : Nat := 0
  /-- The column of the innermost block; -1 outside of all. -/
  indent : Int := -1
  /-- The columns of the blocks around it, innermost first. -/
  outer : List Int := []
  /-- The place of a key at this level. -/
  possible : Option PossibleKey := none
  /-- Those of the levels around the flow brackets that are open, innermost first. -/
  around : List (Option PossibleKey) := []
  /-- A key without an indicator may begin here. -/
  keyAllowed : Bool := true

namespace Tokens

/-- Whether flow brackets are open. -/
def inFlow (t : Tokens) : Bool := !t.around.isEmpty

def column (t : Tokens) : Int := t.place.column

/-! ## Adding tokens -/

/-- The tokens with one more at the end. -/
def push (t : Tokens) (token : Token) : Tokens :=
  { t with found := token :: t.found, count := t.count + 1 }

/-- The tokens with one more behind the first `position` ones. -/
def insertAt (t : Tokens) (position : Nat) (token : Token) : Tokens :=
  let later := t.count - position
  { t with found := t.found.take later ++ token :: t.found.drop later, count := t.count + 1 }

/-! ## Indentation -/

/-- Opens a block at a column that is deeper than the innermost one. The
token that opens it goes behind the first `position` ones. -/
def openBlock (t : Tokens) (column : Int) (position : Nat) (token : Token) : Tokens :=
  if t.inFlow || column ≤ t.indent then t
  else { t.insertAt position token with indent := column, outer := t.indent :: t.outer }

/-- Closes blocks that are deeper than `column`, given the columns around the innermost one. -/
def closeFrom (t : Tokens) (column : Int) : List Int → Tokens
  | [] => { t with outer := [] }
  | next :: outer =>
    if t.indent ≤ column then { t with outer := next :: outer }
    else closeFrom { t.push .blockEnd with indent := next } column outer

/-- Closes the blocks that are deeper than `column`. -/
def closeBlocks (t : Tokens) (column : Int) : Tokens :=
  if t.inFlow then t else t.closeFrom column t.outer

/-! ## Keys -/

/-- Forgets that a key may have begun; nothing where the block needed one. -/
def dropKey? (t : Tokens) : Option Tokens :=
  match t.possible with
  | none => some t
  | some key => if key.required then none else some { t with possible := none }

/-- Remembers that a key may begin here. -/
def markKey? (t : Tokens) : Option Tokens := do
  if t.keyAllowed then
    let key : PossibleKey :=
      { required := !t.inFlow && t.indent == t.column, tokens := t.count, place := t.place }
    let t ← t.dropKey?
    return { t with possible := some key }
  else return t

/-- A key is on one line and of limited length. -/
def isStale (t : Tokens) (key : PossibleKey) : Bool :=
  key.place.line < t.place.line || key.place.offset + maxKeyLength < t.place.offset

/-- Forgets the place of a key that is stale; nothing where the block needed
it. Those around open brackets are looked at when the brackets close: a stale
place stays so. -/
def dropStale? (t : Tokens) : Option Tokens :=
  match t.possible with
  | none => some t
  | some key => if t.isStale key then t.dropKey? else some t

/-! ## Passing white space -/

/-- The place of the next token, and whether a key may begin there. A line
break in a block allows a key; a tab where a key may begin is no white space.
A byte order mark at the start of a line is passed over. -/
def nextPlace (inFlow keyAllowed inComment : Bool) (c : Cursor) : Cursor × Bool :=
  match _h : c.rest with
  | [] => (c, keyAllowed)
  | ch :: _ =>
    if isBreak ch then nextPlace inFlow (keyAllowed || !inFlow) false c.skipBreak
    else if inComment || ch == '#' then nextPlace inFlow keyAllowed true (c.skip 1)
    else if ch == ' ' || (ch == '\t' && (inFlow || !keyAllowed)) ||
        (ch == '\ufeff' && c.column == 0) then
      nextPlace inFlow keyAllowed false (c.skip 1)
    else (c, keyAllowed)
termination_by c.rest.length
decreasing_by
  all_goals
    simp only [Cursor.length_skip, Cursor.length_skipBreak, _h, List.length_cons]
    omega

/-! ## Tokens by their first characters -/

/-- The tokens with `token` for the next `length` characters. -/
def take (t : Tokens) (token : Token) (length : Nat) : Tokens :=
  { t.push token with place := t.place.skip length }

/-- A mark at the start of a line that starts or ends a document. -/
def documentMark? (t : Tokens) (token : Token) : Option Tokens := do
  let t ← (t.closeBlocks (-1)).dropKey?
  return { t.take token 3 with keyAllowed := false }

def directiveLine? (t : Tokens) : Option Tokens := do
  let t ← (t.closeBlocks (-1)).dropKey?
  let (token, place) ← directive? t.place
  return { t.push token with place, keyAllowed := false }

def openFlow? (t : Tokens) (token : Token) : Option Tokens := do
  let t ← t.markKey?
  return { t.take token 1 with possible := none, around := t.possible :: t.around,
                               keyAllowed := true }

def closeFlow? (t : Tokens) (token : Token) : Option Tokens := do
  let t ← t.dropKey?
  let t :=
    match t.around with
    | [] => t
    | key :: around => { t with possible := key, around }
  return { t.take token 1 with keyAllowed := false }

def flowEntry? (t : Tokens) : Option Tokens := do
  let t ← t.dropKey?
  return { t.take .flowEntry 1 with keyAllowed := true }

/-- The `-` of an entry, which opens a sequence where it is deeper than the block. -/
def blockEntry? (t : Tokens) : Option Tokens := do
  if !t.inFlow && !t.keyAllowed then none
  else
    let t ← (t.openBlock t.column t.count .blockSequenceStart).dropKey?
    return { t.take .blockEntry 1 with keyAllowed := true }

/-- The `?` of a key. -/
def keyMark? (t : Tokens) : Option Tokens := do
  if !t.inFlow && !t.keyAllowed then none
  else
    let t ← (t.openBlock t.column t.count .blockMappingStart).dropKey?
    return { t.take .key 1 with keyAllowed := !t.inFlow }

/-- The `:` of a value, which makes the possible key a key. -/
def valueMark? (t : Tokens) : Option Tokens :=
  match t.possible with
  | some key =>
    let t := t.insertAt key.tokens .key
    let t := t.openBlock key.place.column key.tokens .blockMappingStart
    some { t.take .value 1 with possible := none, keyAllowed := false }
  | none =>
    if !t.inFlow && !t.keyAllowed then none
    else
      let t := t.openBlock t.column t.count .blockMappingStart
      some { t.take .value 1 with keyAllowed := !t.inFlow }

def named? (t : Tokens) (token : String → Token) : Option Tokens := do
  let t ← t.markKey?
  let (name, place) ← anchorName? t.place
  return { t.push (token name) with place, keyAllowed := false }

def tagged? (t : Tokens) : Option Tokens := do
  let t ← t.markKey?
  let (word, place) ← Yaml.tag? t.inFlow t.place
  return { t.push (.tag word) with place, keyAllowed := false }

def block? (t : Tokens) (folds : Bool) : Option Tokens := do
  let t ← t.dropKey?
  let scalar ← blockScalar? folds t.indent t.place
  return { t.push (.scalar (String.ofList scalar.text) false) with place := scalar.after,
                                                                   keyAllowed := true }

def quoted? (t : Tokens) (quote : Char) : Option Tokens := do
  let t ← t.markKey?
  let scalar ← quotedScalar? quote t.place
  return { t.push (.scalar (String.ofList scalar.text) false) with place := scalar.after,
                                                                   keyAllowed := false }

def plain? (t : Tokens) : Option Tokens := do
  let t ← t.markKey?
  let scalar ← plainScalar? t.inFlow t.indent t.place
  return { t.push (.scalar (String.ofList scalar.text) true) with place := scalar.after,
                                                                  keyAllowed := scalar.brokenOff }

/-- A character that plain text cannot begin with. -/
def isIndicator (c : Char) : Bool := "-?:,[]\x7b\x7d#&*!|>'\"%@\x60".toList.contains c

/-- Whether plain text begins here; three of the indicators may begin it before other text. -/
def startsPlain (inFlow : Bool) (ch : Char) (rest : List Char) : Bool :=
  !(isSpacing ch || isBreak ch || isIndicator ch) ||
    (ch == '-' && !rest.head?.any isSpacing) ||
    (!inFlow && (ch == '?' || ch == ':') && !startsBlank rest)

/-- One more token, at a place where one begins. -/
def read? (t : Tokens) (ch : Char) (rest : List Char) : Option Tokens :=
  if t.place.column == 0 && ch == '%' then t.directiveLine?
  else if t.place.atDocumentMark then
    t.documentMark? (if ch == '-' then .documentStart else .documentEnd)
  else if ch == '[' then t.openFlow? .flowSequenceStart
  else if ch == '\x7b' then t.openFlow? .flowMappingStart
  else if ch == ']' then t.closeFlow? .flowSequenceEnd
  else if ch == '\x7d' then t.closeFlow? .flowMappingEnd
  else if ch == ',' then t.flowEntry?
  else if ch == '-' && startsBlank rest then t.blockEntry?
  else if ch == '?' && (t.inFlow || startsBlank rest) then t.keyMark?
  else if ch == ':' && (t.inFlow || startsBlank rest) then t.valueMark?
  else if ch == '*' then t.named? .reference
  else if ch == '&' then t.named? .anchor
  else if ch == '!' then t.tagged?
  else if ch == '|' && !t.inFlow then t.block? false
  else if ch == '>' && !t.inFlow then t.block? true
  else if ch == '\'' || ch == '"' then t.quoted? ch
  else if startsPlain t.inFlow ch rest then t.plain?
  else none

/-! ## The whole text -/

/-- The end of the text closes every block. -/
def finish? (t : Tokens) : Option Tokens := (t.closeBlocks (-1)).dropKey?

/-- Reads tokens to the end of the text; `limit` is more than the number of tokens left. -/
def readAll? (t : Tokens) : Nat → Option Tokens
  | 0 => none
  | limit + 1 => do
    let (place, keyAllowed) := nextPlace t.inFlow t.keyAllowed false t.place
    let t ← { t with place, keyAllowed }.dropStale?
    let t := t.closeBlocks t.column
    match t.place.rest with
    | [] => t.finish?
    | ch :: rest =>
      let t ← t.read? ch rest
      t.readAll? limit

end Tokens

/-- The tokens of a text, or nothing where it cannot be cut into tokens. -/
def tokens? (text : String) : Option (List Token) := do
  let start ← Cursor.ofText? text
  let all ← Tokens.readAll? { place := start } (start.rest.length + 1)
  return all.found.reverse

end OpBindings.Yaml
