/-
OpBindings.Proofs.StringLiteral — what a compiler reads in the literal of a signature.

A signature is given to the argument parser as a string literal. `readLiteral`
is the compiler's side: it starts at the opening quote, takes an escaped quote
or backslash for the character itself, and stops at the first quote that is not
escaped; a literal does not go on in the next line. What it reads depends on
one thing only, whether the text holds a line feed (`readLiteral_literal`), for
quotes and backslashes are escaped and line feeds are not.

Names and types have no line feed, but defaults are copied from the table, so
`readLiteral_signature` says of which signatures the literal can be read: those
that show no default with a line feed.
-/
import OpBindings.Code.Literal
import OpBindings.Proofs.OutputSlot

namespace OpBindings

open Declaration

/-! ## Reading a literal -/

namespace Code

/-- The text of a literal up to its closing quote, and what follows the quote.
After a backslash, the next character is `escaped`. -/
def readBody (escaped : Bool) : List Char → Option (List Char × List Char)
  | [] => none
  | c :: cs =>
    if escaped then
      if c = '"' || c = '\\' then (readBody false cs).map fun (text, rest) => (c :: text, rest)
      else none
    else if c = '"' then some ([], cs)
    else if c = '\n' then none
    else if c = '\\' then readBody true cs
    else (readBody false cs).map fun (text, rest) => (c :: text, rest)

/-- The text of the literal at the start of the code, and the code after it. -/
def readLiteral : List Char → Option (List Char × List Char)
  | '"' :: cs => readBody false cs
  | _ => none

/-- What is escaped is read as the character itself, and a line feed ends the reading. -/
theorem readBody_literalChars (text rest : List Char) :
    readBody false (literalChars text ++ '"' :: rest) =
      if '\n' ∈ text then none else some (text, rest) := by
  induction text with
  | nil => simp [literalChars, readBody]
  | cons c text ih =>
    by_cases escaped : c = '"' ∨ c = '\\'
    · have other : '\n' ≠ c := by rcases escaped with rfl | rfl <;> decide
      have chars : literalChars (c :: text) = '\\' :: c :: literalChars text := by
        simp [literalChars, escaped]
      rw [chars, List.cons_append, List.cons_append]
      simp only [readBody, ih, List.mem_cons, other, false_or, Bool.or_eq_true, decide_eq_true_eq,
        escaped, if_true, Bool.false_eq_true, if_false, Char.reduceEq]
      split <;> rfl
    · obtain ⟨noQuote, noBackslash⟩ := not_or.mp escaped
      have chars : literalChars (c :: text) = c :: literalChars text := by
        simp [literalChars, noQuote, noBackslash]
      rw [chars, List.cons_append, readBody, if_neg Bool.false_ne_true, if_neg noQuote,
        if_neg noBackslash, ih]
      by_cases feed : c = '\n'
      · simp [feed]
      · simp only [List.mem_cons, Ne.symm feed, feed, false_or, if_false]
        split <;> rfl

/-- **A literal is read back** as its text, to its end, unless the text holds a line feed. -/
theorem readLiteral_literal (text : String) :
    readLiteral (literal text).toList =
      if '\n' ∈ text.toList then none else some (text.toList, []) := by
  have chars : (literal text).toList = '"' :: (literalChars text.toList ++ ['"']) := by
    simp [literal]
  rw [chars]
  exact readBody_literalChars text.toList []

end Code

/-! ## Line feeds in a signature -/

/-- A character that is in no gap is in one of the parts. -/
theorem mem_intercalate_iff {c : Char} {gap : List Char} (apart : c ∉ gap)
    (parts : List (List Char)) : c ∈ gap.intercalate parts ↔ ∃ part ∈ parts, c ∈ part := by
  induction parts with
  | nil => simp
  | cons part parts ih =>
    cases parts with
    | nil => simp
    | cons next parts =>
      rw [List.intercalate_cons_cons, List.mem_append, List.mem_append, ih]
      simp [apart]

/-- The default goes on in the next line. -/
def Param.breaksLine (p : Param) : Bool := p.default.any (·.toList.contains '\n')

theorem Param.lineFeed_mem_shownDefault (p : Param) :
    '\n' ∈ defaultChars p.shownDefault ↔ p.breaksLine = true := by
  unfold shownDefault breaksLine
  split
  · rename_i absent
    rw [absent]
    split <;> simp [defaultChars]
  · rename_i empty
    simp [defaultChars, empty]
  · rename_i mean
    simp [defaultChars, mean]
  · rename_i text _ _ given
    simp [defaultChars, given]

/-- The word of a type stays in its line, with its list size and its `?`. -/
theorem lineFeed_not_mem_typeChars (type : ParamType) (optional : Bool) (size : Option Nat) :
    '\n' ∉ typeChars type optional size := by
  intro mem
  rcases List.mem_append.mp mem with word | marks
  · have all : (type.parserSpelling.toList.all (· != '\n')) = true := by cases type <;> decide
    exact absurd rfl (bne_iff_ne.mp (List.all_eq_true.mp all _ word))
  · cases size <;> cases optional <;>
      simp [typeMarks, optionalMark, not_mem_toDigits (c := '\n') (by decide)] at marks

/-- Of a parameter's item, only the default can hold a line feed. -/
theorem Param.lineFeed_mem_shown {p : Param} {o : Operator} {item : String}
    (word : ∀ c ∈ p.name.toList, isWordChar c = true) (shown : p.shown o = .ok item) :
    '\n' ∈ item.toList ↔ p.breaksLine = true := by
  obtain ⟨type, -, text⟩ := shown_eq_ok shown
  have name : '\n' ∉ p.shownName.toList := by
    unfold shownName
    split
    · decide
    · exact fun mem => absurd (word _ mem) (by decide)
  rw [text, ← lineFeed_mem_shownDefault]
  simp [lineFeed_not_mem_typeChars, name]

namespace Operator

variable {o : Operator} {r : Record} {surface : Surface} {outputs : Outputs}
  {signature : Signature}

/-- **A signature holds a line feed** exactly when one of the defaults that it shows does. -/
theorem lineFeed_mem_signature (built : ofRecord r = .ok o)
    (shown : o.signature surface outputs = .ok signature) :
    '\n' ∈ signature.text.toList ↔
      ∃ p ∈ o.orderedParams surface outputs, p.breaksLine = true := by
  obtain ⟨items, ⟨⟨parts, text, rfl⟩, printed⟩, -⟩ := prints_of_signature shown
  have baseName : '\n' ∉ o.baseName.toList :=
    fun mem => absurd (isNameChar_of_mem_baseName built mem) (by decide)
  have word : ∀ p ∈ o.orderedParams surface outputs, ∀ c ∈ p.name.toList, isWordChar c = true := by
    intro p hp c hc
    rcases mem_orderedParams hp with own | rfl
    · exact isWordChar_of_mem_name built own hc
    · exact List.all_eq_true.mp (by decide : "out".toList.all isWordChar = true) c hc
  have inParts : '\n' ∈ signature.text.toList ↔ ∃ part ∈ parts, '\n' ∈ part.toList := by
    rw [text]
    simp only [String.toList_append, String.toList_intercalate, List.mem_append, baseName,
      false_or]
    rw [mem_intercalate_iff (by decide)]
    simp
  rw [inParts]
  constructor
  · rintro ⟨part, mem, feed⟩
    have item : part ∈ parts.filter (· != "*") := by
      refine List.mem_filter.mpr ⟨mem, bne_iff_ne.mpr ?_⟩
      rintro rfl
      revert feed
      decide
    obtain ⟨p, hp, hitem⟩ := forall₂_mem_right printed item
    exact ⟨p, hp, (Param.lineFeed_mem_shown (word p hp) hitem).mp feed⟩
  · rintro ⟨p, hp, breaks⟩
    obtain ⟨part, item, hitem⟩ := forall₂_mem_left printed hp
    exact ⟨part, (List.mem_filter.mp item).1,
      (Param.lineFeed_mem_shown (word p hp) hitem).mpr breaks⟩

end Operator

/-- **When the literal of a signature is read back.** For an operator of the table,
on every surface and with or without its outputs, a compiler reads the literal of
the signature to its end and finds the text of the signature, unless a default
that the signature shows holds a line feed; then the literal is broken off. -/
theorem readLiteral_signature {r : Record} {o : Operator} {surface : Surface} {outputs : Outputs}
    {signature : Signature} (built : Operator.ofRecord r = .ok o)
    (shown : o.signature surface outputs = .ok signature) :
    Code.readLiteral (Code.literal signature.text).toList =
      if (o.orderedParams surface outputs).any (·.breaksLine) then none
      else some (signature.text.toList, []) := by
  have feeds : ('\n' ∈ signature.text.toList) =
      ((o.orderedParams surface outputs).any (·.breaksLine) = true) := by
    rw [List.any_eq_true]
    exact propext (Operator.lineFeed_mem_signature built shown)
  rw [Code.readLiteral_literal]
  simp only [feeds]

-- a declaration is read as the list of its characters, and the ones below are long
set_option maxRecDepth 1000

/-- A declaration with a quote, and a backslash before a quote, in its defaults. -/
def quotingDeclaration : Declaration where
  name := "quoting"
  params := [
    ⟨"self", "Tensor", false, none, none, false, none⟩,
    ⟨"quote", "str", false, some "'\"'", none, true, none⟩,
    ⟨"escape", "str", false, some "\"\\\"", none, true, none⟩]
  results := [⟨none, "Tensor", none⟩]

@[inherit_doc quotingDeclaration]
def quoting : Operator := Operator.ofDeclaration
  "quoting(Tensor self, *, str quote='\"', str escape=\"\\\") -> Tensor"
  quotingDeclaration { function := true } none

/-- The text of its signature. -/
def quotingText : String :=
  "quoting(Tensor input, *, std::string quote='\"', std::string escape=\"\\\")"

theorem readLiteral_quoting : (∃ r, Operator.ofRecord r = .ok quoting) ∧
    quoting.signature .torch .kept = .ok ⟨quotingText, 3⟩ ∧
    Code.literal quotingText =
      "\"quoting(Tensor input, *, std::string quote='\\\"', std::string escape=\\\"\\\\\\\")\"" ∧
    Code.readLiteral (Code.literal quotingText).toList = some (quotingText.toList, []) := by
  have made : quoting.IsMadeFrom { declaration := quoting.text } quotingDeclaration :=
    Operator.isMadeFrom_ofDeclaration (by decide +kernel) rfl
  have shown : quoting.signature .torch .kept = .ok ⟨quotingText, 3⟩ := by rfl
  refine ⟨⟨_, made.built⟩, shown, by rfl, (readLiteral_signature made.built shown).trans ?_⟩
  exact if_neg (by decide)

/-- A declaration with a default of two lines. -/
def labelDeclaration : Declaration where
  name := "label"
  params := [
    ⟨"self", "Tensor", false, none, none, false, none⟩,
    ⟨"text", "str", false, some "\"a\nb\"", none, true, none⟩]
  results := [⟨none, "Tensor", none⟩]

@[inherit_doc labelDeclaration]
def label : Operator := Operator.ofDeclaration
  "label(Tensor self, *, str text=\"a\nb\") -> Tensor" labelDeclaration { function := true } none

/-- The text of its signature. -/
def labelText : String := "label(Tensor input, *, std::string text=\"a\nb\")"

/-- The literal is broken off in the default. -/
theorem readLiteral_label : (∃ r, Operator.ofRecord r = .ok label) ∧
    label.signature .torch .kept = .ok ⟨labelText, 2⟩ ∧
    Code.literal labelText = "\"label(Tensor input, *, std::string text=\\\"a\nb\\\")\"" ∧
    Code.readLiteral (Code.literal labelText).toList = none := by
  have made : label.IsMadeFrom { declaration := label.text } labelDeclaration :=
    Operator.isMadeFrom_ofDeclaration (by decide +kernel) rfl
  refine ⟨⟨_, made.built⟩, by rfl, by rfl, (Code.readLiteral_literal _).trans (if_pos ?_)⟩
  decide

end OpBindings
