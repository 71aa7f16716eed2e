/-
OpBindings.Yaml.Token.Scalar — reading a scalar.

Three forms: plain text, text in quotes, and a block of indented lines. In
the first two, the white space between two pieces of text is a `Gap`: on one
line it stands as it is, and over a line break it is folded.
-/
import OpBindings.Text.Digits
import OpBindings.Yaml.Cursor

namespace OpBindings.Yaml

/-! ## Gaps -/

/-- White space between two pieces of text. -/
structure Gap where
  /-- The white space before any break, last first. -/
  spaces : List Char := []
  /-- A break was met. -/
  broken : Bool := false
  /-- The first break, unless it was escaped. -/
  first : List Char := []
  /-- The breaks after it, last first. -/
  more : List Char := []
deriving Repr

namespace Gap

/-- The gap with one more character of white space. -/
def add (g : Gap) (c : Char) : Gap :=
  if isBreak c then
    if g.broken then { g with more := c :: g.more } else { broken := true, first := [c] }
  else if g.broken then g
  else { g with spaces := c :: g.spaces }

/-- The gap after an escaped break. -/
def escaped (g : Gap) : Gap := { g with broken := true, first := [] }

/-- What the gap stands for, last first. One line feed is a space, and a
line feed before further breaks disappears. -/
def folded (g : Gap) : List Char :=
  if !g.broken then g.spaces
  else if g.first = ['\n'] then if g.more.isEmpty then [' '] else g.more
  else g.more ++ g.first

end Gap

/-- A scalar's text and the place behind it. -/
structure ScalarText where
  text : List Char
  after : Cursor
  /-- The scalar was ended by a line of smaller indentation or without text. -/
  brokenOff : Bool := false

/-! ## Plain scalars -/

/-- A character that ends plain text inside flow brackets. -/
def isFlowMark (c : Char) : Bool := [',', '[', ']', '\x7b', '\x7d'].contains c

/-- The plain text that ends at `c`, behind a gap; `text` is what was read, last first. -/
def endOfPlain (c : Cursor) (text : List Char) (gap : Gap) : ScalarText :=
  { text := text.reverse, after := c, brokenOff := gap.broken }

/-- Reads plain text. `indent` is the least column of a further line;
`text` is what was read, last first; `fresh` says that white space was just passed. -/
def plainFrom (inFlow : Bool) (indent : Int) (c : Cursor) (text : List Char) (gap : Gap)
    (fresh : Bool) : Option ScalarText :=
  match _h : c.rest with
  | [] => some (endOfPlain c text gap)
  | ch :: rest =>
    if isSpacing ch || isBreak ch then
      if gap.broken && ch == '\t' && (c.column : Int) < indent then none
      else plainFrom inFlow indent c.next text (gap.add ch) true
    else if fresh &&
        (ch == '#' || c.atDocumentMark || (!inFlow && (c.column : Int) < indent)) then
      some (endOfPlain c text gap)
    else if inFlow && ch == ':' &&
        rest.head?.any (fun after => after == '?' || isFlowMark after) then none
    else if (ch == ':' && startsBlank rest) || (inFlow && isFlowMark ch) then
      some (endOfPlain c text gap)
    else plainFrom inFlow indent (c.skip 1) (ch :: (gap.folded ++ text)) {} false
termination_by c.rest.length
decreasing_by
  all_goals
    simp only [Cursor.length_next, Cursor.length_skip, _h, List.length_cons]
    omega

/-- The plain scalar here, in a block of indentation `indent`. -/
def plainScalar? (inFlow : Bool) (indent : Int) (c : Cursor) : Option ScalarText :=
  plainFrom inFlow (indent + 1) c [] {} false

/-! ## Quoted scalars -/

/-- The character that `count` hexadecimal digits number. -/
def numberedChar? (count : Nat) (rest : List Char) : Option Char :=
  if (rest.take count).length < count then none
  else do
    let number ← Text.natural? 16 (rest.take count)
    if number < 0xD800 || (0xDFFF < number && number ≤ 0x10FFFF) then some (Char.ofNat number)
    else none

/-- The character that an escape stands for, and the length of the escape
without its backslash. -/
def escape? : List Char → Option (Char × Nat)
  | '0' :: _ => some ('\x00', 1)
  | 'a' :: _ => some ('\x07', 1)
  | 'b' :: _ => some ('\x08', 1)
  | 't' :: _ => some ('\t', 1)
  | '\t' :: _ => some ('\t', 1)
  | 'n' :: _ => some ('\n', 1)
  | 'v' :: _ => some ('\x0b', 1)
  | 'f' :: _ => some ('\x0c', 1)
  | 'r' :: _ => some ('\r', 1)
  | 'e' :: _ => some ('\x1b', 1)
  | ' ' :: _ => some (' ', 1)
  | '"' :: _ => some ('"', 1)
  | '/' :: _ => some ('/', 1)
  | '\\' :: _ => some ('\\', 1)
  | 'N' :: _ => some ('\u0085', 1)
  | '_' :: _ => some ('\u00a0', 1)
  | 'L' :: _ => some ('\u2028', 1)
  | 'P' :: _ => some ('\u2029', 1)
  | 'x' :: rest => (numberedChar? 2 rest).map fun c => (c, 3)
  | 'u' :: rest => (numberedChar? 4 rest).map fun c => (c, 5)
  | 'U' :: rest => (numberedChar? 8 rest).map fun c => (c, 9)
  | _ => none

/-- Reads quoted text up to its closing quote. A break ends the piece of text
before it, even an escaped one. -/
def quotedFrom (quote : Char) (c : Cursor) (text : List Char) (gap : Gap) : Option ScalarText :=
  match _h : c.rest with
  | [] => none
  | ch :: rest =>
    if c.atDocumentMark then none
    else if isSpacing ch || isBreak ch then quotedFrom quote c.next text (gap.add ch)
    else
      let text := gap.folded ++ text
      if ch == quote then
        if quote == '\'' && rest.head? == some '\'' then
          quotedFrom quote (c.skip 2) ('\'' :: text) {}
        else some { text := text.reverse, after := c.skip 1 }
      else if ch == '\\' && quote == '"' then
        if rest.head?.any isBreak then
          quotedFrom quote (c.skip 1).skipBreak text (Gap.escaped {})
        else
          match escape? rest with
          | none => none
          | some (meant, length) => quotedFrom quote (c.skip (1 + length)) (meant :: text) {}
      else quotedFrom quote (c.skip 1) (ch :: text) {}
termination_by c.rest.length
decreasing_by
  all_goals
    simp only [Cursor.length_next, Cursor.length_skip, Cursor.length_skipBreak, _h,
      List.length_cons]
    omega

/-- The quoted scalar here; the next character is its quote. -/
def quotedScalar? (quote : Char) (c : Cursor) : Option ScalarText :=
  quotedFrom quote (c.skip 1) [] {}

/-! ## Block scalars -/

/-- What becomes of the breaks at the end of a block. -/
inductive Chomping where
  | strip
  | clip
  | keep
deriving DecidableEq, Repr

/-- The head of a block: what becomes of its last breaks, and its indentation if that is given. -/
structure BlockHead where
  chomping : Chomping := .clip
  indent : Option Nat := none

/-- A sign at the end of a block's head. -/
def chomping? : Char → Option Chomping
  | '+' => some .keep
  | '-' => some .strip
  | _ => none

/-- A digit that gives a block's indentation. -/
def blockDigit? (c : Char) : Option Nat :=
  if c.isDigit then some (c.toNat - '0'.toNat) else none

/-- The head of a block behind its indicator: a sign and a digit in either order, and a comment. -/
def blockHead? (c : Cursor) : Option (BlockHead × Cursor) :=
  let (chomping, c) :=
    match c.rest.head?.bind chomping? with
    | some chomping => (some chomping, c.skip 1)
    | none => (none, c)
  let (indent, c) :=
    match c.rest.head?.bind blockDigit? with
    | some indent => (some indent, c.skip 1)
    | none => (none, c)
  let (chomping, c) :=
    match chomping, indent, c.rest.head?.bind chomping? with
    | none, some _, some chomping => (some chomping, c.skip 1)
    | chomping, _, _ => (chomping, c)
  let c := c.skipComment
  if indent = some 0 || !startsBreak c.rest then none
  else some ({ chomping := chomping.getD .clip, indent }, c.next)

/-- Reads the empty lines before a line of a block. `indent` is zero as long
as it is not known; `breaks` are the breaks met, last first, and `widest` the
largest column. -/
def blockBreaks (indent : Nat) (c : Cursor) (breaks : List Char) (widest : Nat) :
    Option (List Char × Nat × Cursor) :=
  match _h : c.rest with
  | [] => some (breaks, max widest c.column, c)
  | ch :: _ =>
    if ch == ' ' && (indent == 0 || c.column < indent) then
      blockBreaks indent (c.skip 1) breaks widest
    else if ch == '\t' && (indent == 0 || c.column < indent) then none
    else if isBreak ch then
      blockBreaks indent c.skipBreak (ch :: breaks) (max widest c.column)
    else some (breaks, max widest c.column, c)
termination_by c.rest.length
decreasing_by
  all_goals
    simp only [Cursor.length_skip, Cursor.length_skipBreak, _h, List.length_cons]
    omega

theorem length_blockBreaks {indent : Nat} {c after : Cursor} {breaks found : List Char}
    {widest column : Nat} (h : blockBreaks indent c breaks widest = some (found, column, after)) :
    after.rest.length ≤ c.rest.length := by
  fun_induction blockBreaks indent c breaks widest with
  | case1 => simp_all
  | case2 c _ _ _ _ _ _ ih => exact Nat.le_trans (ih h) (by simp [Cursor.length_skip])
  | case3 => simp at h
  | case4 c _ _ _ _ _ _ _ _ ih => exact Nat.le_trans (ih h) (by simp [Cursor.length_skipBreak])
  | case5 => simp_all

/-- Reads the lines of a block. `text` is what was read, last first;
`leading` is the break that ended the line before, and `trailing` the breaks
after it, last first; `indented` says that the line before began with a space. -/
def blockLines (folds : Bool) (indent : Nat) (chomping : Chomping) (c : Cursor)
    (text leading trailing : List Char) (indented : Bool) : Option ScalarText :=
  if _h : c.column ≠ indent ∨ c.rest = [] then
    let text := if chomping = .strip then text else leading ++ text
    let text := if chomping = .keep then trailing ++ text else text
    some { text := text.reverse, after := c }
  else
    let blankStart := c.rest.head?.any isSpacing
    let joint :=
      if folds && leading == ['\n'] && !indented && !blankStart then
        if trailing.isEmpty then [' '] else trailing
      else trailing ++ leading
    let line := c.rest.takeWhile (!isBreak ·)
    let text := line.reverse ++ (joint ++ text)
    let lineEnd := c.skip line.length
    match _hb : blockBreaks indent lineEnd.next [] 0 with
    | none => none
    | some (trailing, _, next) =>
      blockLines folds indent chomping next text (lineEnd.rest.take 1) trailing blankStart
termination_by c.rest.length
decreasing_by
  have := length_blockBreaks _hb
  have := List.length_pos_iff.2 (not_or.1 _h).2
  simp only [lineEnd, Cursor.length_next, Cursor.length_skip] at *
  omega

/-- The block scalar here; the next character is its indicator. `outer` is
the indentation of the block around it. -/
def blockScalar? (folds : Bool) (outer : Int) (c : Cursor) : Option ScalarText := do
  let (head, c) ← blockHead? (c.skip 1)
  let given := head.indent.map fun indent => outer.toNat + indent
  let (breaks, widest, c) ← blockBreaks (given.getD 0) c [] 0
  let indent := given.getD (max widest (max (outer + 1).toNat 1))
  blockLines folds indent head.chomping c [] [] breaks false

end OpBindings.Yaml
