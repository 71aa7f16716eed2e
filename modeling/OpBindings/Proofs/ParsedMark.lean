/-
OpBindings.Proofs.ParsedMark — what a text reads of the argument parser's result.

Whatever is read of the result is printed with `_r.` before it (`MentionsParsed`).
Texts are put together from texts of the printer and texts from outside, and the
lemmas here say that no mark arises where two of them meet: a text of the printer
begins or ends with a character that is not in the mark (`startsApart`, `endsApart`),
and a word does not go past a character that it does not have
(`infix_append_cons_iff`). So the mark can be followed through code piece by piece
(`Code.MentionsParsed`), and the code has it exactly when its text has
(`Code.mentionsParsed_text_iff`).
-/
import OpBindings.Code.Literal
import OpBindings.Proofs.CodeText
import OpBindings.Proofs.Signature

namespace OpBindings

/-! ## A word in a text -/

section Word

variable {c : Char} {word before after cs : List Char}

theorem prefix_of_prefix_append_cons (apart : c ∉ word) (h : word <+: before ++ c :: after) :
    word <+: before := by
  induction before generalizing word with
  | nil =>
    rcases List.prefix_cons_iff.mp h with rfl | ⟨word, rfl, -⟩
    · exact List.nil_prefix
    · exact absurd List.mem_cons_self apart
  | cons b before ih =>
    rcases List.prefix_cons_iff.mp h with rfl | ⟨word, rfl, rest⟩
    · exact List.nil_prefix
    · exact List.cons_prefix_cons.mpr ⟨rfl, ih (mt (List.mem_cons_of_mem b) apart) rest⟩

theorem infix_cons_iff_of_not_mem (apart : c ∉ word) (some : word ≠ []) :
    word <:+: c :: cs ↔ word <:+: cs := by
  rw [List.infix_cons_iff, or_iff_right]
  intro h
  have start : word <+: [] := prefix_of_prefix_append_cons apart h
  exact some (List.prefix_nil.mp start)

/-- A word does not go past a character that it does not have. -/
theorem infix_append_cons_iff (apart : c ∉ word) (some : word ≠ []) :
    word <:+: before ++ c :: after ↔ word <:+: before ∨ word <:+: after := by
  induction before with
  | nil =>
    rw [List.nil_append, infix_cons_iff_of_not_mem apart some, List.infix_nil]
    exact (or_iff_right some).symm
  | cons b before ih =>
    have start : word <+: b :: before ++ c :: after ↔ word <+: b :: before :=
      ⟨prefix_of_prefix_append_cons apart, fun h => h.trans (List.prefix_append _ _)⟩
    rw [List.cons_append] at start ⊢
    rw [List.infix_cons_iff, ih, start, List.infix_cons_iff, or_assoc]

/-- A word with neither comma nor blank is in one of the parts of a list. -/
theorem infix_intercalate_iff (comma : ',' ∉ word) (blank : ' ' ∉ word) (some : word ≠ [])
    (parts : List (List Char)) :
    word <:+: [',', ' '].intercalate parts ↔ ∃ part ∈ parts, word <:+: part := by
  induction parts with
  | nil => simpa using some
  | cons part parts ih =>
    cases parts with
    | nil => simp
    | cons next parts =>
      rw [List.intercalate_cons_cons, List.append_assoc, List.cons_append, List.cons_append,
        List.nil_append, infix_append_cons_iff comma some, infix_cons_iff_of_not_mem blank some, ih]
      simp

theorem Text.occurs_eq_true_iff : occurs word cs = true ↔ word <:+: cs := by
  induction cs with
  | nil => simp [occurs]
  | cons c cs ih => simp [occurs, ih, List.infix_cons_iff]

namespace Code

theorem prefix_of_prefix_literalChars (backslash : '\\' ∉ word)
    (h : word <+: literalChars cs) : word <+: cs := by
  induction cs generalizing word with
  | nil => exact h
  | cons c cs ih =>
    rw [literalChars] at h
    split at h
    · rcases List.prefix_cons_iff.mp h with rfl | ⟨word, rfl, -⟩
      · exact List.nil_prefix
      · exact absurd List.mem_cons_self backslash
    · rcases List.prefix_cons_iff.mp h with rfl | ⟨word, rfl, rest⟩
      · exact List.nil_prefix
      · exact List.cons_prefix_cons.mpr ⟨rfl, ih (mt (List.mem_cons_of_mem c) backslash) rest⟩

/-- A word without a character that is escaped is in a text where it is in its literal. -/
theorem infix_of_infix_literalChars (quote : '"' ∉ word) (backslash : '\\' ∉ word)
    (some : word ≠ []) (h : word <:+: literalChars cs) : word <:+: cs := by
  induction cs with
  | nil => exact h
  | cons c cs ih =>
    by_cases escaped : c = '"' ∨ c = '\\'
    · have apart : c ∉ word := by rcases escaped with rfl | rfl <;> assumption
      rw [literalChars, if_pos (by simpa using escaped), infix_cons_iff_of_not_mem backslash some,
        infix_cons_iff_of_not_mem apart some] at h
      exact List.infix_cons (ih h)
    · have chars : literalChars (c :: cs) = c :: literalChars cs := by
        rw [literalChars, if_neg (by simpa using escaped)]
      rw [chars, List.infix_cons_iff, ← chars] at h
      rcases h with start | later
      · exact (prefix_of_prefix_literalChars backslash start).isInfix
      · exact List.infix_cons (ih later)

end Code

end Word

/-! ## Texts that read the parser -/

/-- What is read of the parser's result begins with this. -/
def parsedMark : List Char := ['_', 'r', '.']

/-- The text reads what the argument parser returned. -/
def MentionsParsed (text : String) : Prop := parsedMark <:+: text.toList

instance (text : String) : Decidable (MentionsParsed text) :=
  decidable_of_iff (Text.occurs parsedMark text.toList = true) Text.occurs_eq_true_iff

/-- The text has no mark, and none arises where another text stands before it. -/
def startsApart (text : String) : Bool :=
  text.toList.head?.any (!parsedMark.contains ·) && !decide (MentionsParsed text)

/-- The text has no mark, and none arises where another text stands behind it. -/
def endsApart (text : String) : Bool :=
  text.toList.getLast?.any (!parsedMark.contains ·) && !decide (MentionsParsed text)

section Mentions

variable {text first rest : String}

theorem MentionsParsed.append (h : MentionsParsed first) (rest : String) :
    MentionsParsed (first ++ rest) := by
  rw [MentionsParsed, String.toList_append]
  exact h.trans (List.prefix_append _ _).isInfix

theorem MentionsParsed.of_append (first : String) (h : MentionsParsed rest) :
    MentionsParsed (first ++ rest) := by
  rw [MentionsParsed, String.toList_append]
  exact h.trans (List.suffix_append _ _).isInfix

theorem not_mentionsParsed_of_not_mem (h : '.' ∉ text.toList) : ¬ MentionsParsed text :=
  fun mentions => h (mentions.subset (by decide))

theorem exists_of_startsApart (h : startsApart text = true) :
    ∃ c cs, text.toList = c :: cs ∧ c ∉ parsedMark ∧ ¬ MentionsParsed text := by
  simp only [startsApart, Bool.and_eq_true, Option.any_eq_true, Bool.not_eq_true',
    decide_eq_false_iff_not, List.contains_eq_mem] at h
  obtain ⟨⟨c, starts, apart⟩, silent⟩ := h
  obtain ⟨cs, chars⟩ := List.head?_eq_some_iff.mp starts
  exact ⟨c, cs, chars, apart, silent⟩

theorem exists_of_endsApart (h : endsApart text = true) :
    ∃ c cs, text.toList = cs ++ [c] ∧ c ∉ parsedMark ∧ ¬ MentionsParsed text := by
  simp only [endsApart, Bool.and_eq_true, Option.any_eq_true, Bool.not_eq_true',
    decide_eq_false_iff_not, List.contains_eq_mem] at h
  obtain ⟨⟨c, ends, apart⟩, silent⟩ := h
  obtain ⟨cs, chars⟩ := List.getLast?_eq_some_iff.mp ends
  exact ⟨c, cs, chars, apart, silent⟩

theorem mentionsParsed_append_of_startsApart (first rest : String) (h : startsApart rest = true) :
    MentionsParsed (first ++ rest) ↔ MentionsParsed first := by
  obtain ⟨c, cs, chars, apart, silent⟩ := exists_of_startsApart h
  have later : ¬ parsedMark <:+: cs := by
    rwa [MentionsParsed, chars, infix_cons_iff_of_not_mem apart (by decide)] at silent
  rw [MentionsParsed, String.toList_append, chars, infix_append_cons_iff apart (by decide),
    or_iff_left later, MentionsParsed]

theorem mentionsParsed_append_of_endsApart (first : String) (h : endsApart first = true)
    (rest : String) :
    MentionsParsed (first ++ rest) ↔ MentionsParsed rest := by
  obtain ⟨c, cs, chars, apart, silent⟩ := exists_of_endsApart h
  have earlier : ¬ parsedMark <:+: cs := by
    rw [MentionsParsed, chars, infix_append_cons_iff apart (by decide)] at silent
    exact fun h => silent (.inl h)
  rw [MentionsParsed, String.toList_append, chars, List.append_assoc, List.singleton_append,
    infix_append_cons_iff apart (by decide), or_iff_right earlier, MentionsParsed]

/-- **A gap keeps two texts apart:** no mark arises between them. -/
theorem mentionsParsed_append_gap_append (first gap : String) (starts : startsApart gap = true)
    (ends : endsApart gap = true) (rest : String) :
    MentionsParsed (first ++ (gap ++ rest)) ↔ MentionsParsed first ∨ MentionsParsed rest := by
  rw [← mentionsParsed_append_of_endsApart gap ends rest]
  obtain ⟨c, cs, chars, apart, -⟩ := exists_of_startsApart starts
  simp only [MentionsParsed, String.toList_append, chars, List.cons_append]
  rw [infix_append_cons_iff apart (by decide), infix_cons_iff_of_not_mem apart (by decide)]

theorem mentionsParsed_intercalate_iff {parts : List String} :
    MentionsParsed (", ".intercalate parts) ↔ ∃ part ∈ parts, MentionsParsed part := by
  have chars : ", ".toList = [',', ' '] := rfl
  rw [MentionsParsed, String.toList_intercalate, chars,
    infix_intercalate_iff (by decide) (by decide) (by decide)]
  simp [MentionsParsed]

theorem not_mentionsParsed_toString (n : Nat) : ¬ MentionsParsed (toString n) :=
  not_mentionsParsed_of_not_mem (by simpa using not_mem_toDigits (n := n) (c := '.') (by decide))

theorem not_mentionsParsed_literal (h : ¬ MentionsParsed text) :
    ¬ MentionsParsed (Code.literal text) := by
  rw [Code.literal, mentionsParsed_append_of_startsApart _ "\"" (by decide),
    mentionsParsed_append_of_endsApart "\"" (by decide), MentionsParsed,
    String.toList_ofList]
  exact mt (Code.infix_of_infix_literalChars (by decide) (by decide) (by decide)) h

end Mentions

/-! ## Code that reads the parser -/

namespace Code

variable {code first rest inner : Code} {text : String}

/-- A line of the code reads what the argument parser returned. -/
def MentionsParsed (code : Code) : Prop :=
  ∃ text, CodeItem.line text ∈ code ∧ OpBindings.MentionsParsed text

@[simp] theorem not_mentionsParsed_nil : ¬ Code.MentionsParsed [] := by simp [MentionsParsed]

@[simp] theorem mentionsParsed_line :
    (line text).MentionsParsed ↔ OpBindings.MentionsParsed text := by
  simp [MentionsParsed, line]

theorem mentionsParsed_map_line {texts : List String} :
    Code.MentionsParsed (texts.map .line) ↔ ∃ text ∈ texts, OpBindings.MentionsParsed text := by
  simp [MentionsParsed]

@[simp] theorem mentionsParsed_append :
    (first ++ rest).MentionsParsed ↔ first.MentionsParsed ∨ rest.MentionsParsed := by
  simp [MentionsParsed, or_and_right, exists_or]

@[simp] theorem mentionsParsed_nested : (nested inner).MentionsParsed ↔ inner.MentionsParsed := by
  simp [MentionsParsed, nested]

@[simp] theorem mentionsParsed_block {opening closing : String} :
    (block opening inner closing).MentionsParsed ↔ OpBindings.MentionsParsed opening ∨
      inner.MentionsParsed ∨ OpBindings.MentionsParsed closing := by
  simp [block]

theorem mentionsParsed_laid_iff (depth : Nat) :
    OpBindings.MentionsParsed (laid depth text) ↔ OpBindings.MentionsParsed text := by
  rw [OpBindings.MentionsParsed, toList_laid, OpBindings.MentionsParsed]
  split
  · rename_i empty
    rw [empty, String.toList_empty]
  · induction 2 * depth with
    | zero => rfl
    | succ spaces ih =>
      rw [List.replicate_succ, List.cons_append,
        infix_cons_iff_of_not_mem (by decide) (by decide), ih]

/-- **A text reads the parser** exactly when a line of its code does. -/
theorem mentionsParsed_text_iff (code : Code) :
    OpBindings.MentionsParsed code.text ↔ code.MentionsParsed := by
  have each : ∀ lines : List String,
      parsedMark <:+: (lines.flatMap fun line => line.toList ++ ['\n']) ↔
        ∃ line ∈ lines, OpBindings.MentionsParsed line := by
    intro lines
    induction lines with
    | nil => simp [parsedMark]
    | cons line lines ih =>
      rw [List.flatMap_cons, List.append_assoc, List.singleton_append,
        infix_append_cons_iff (by decide) (by decide), ih, List.exists_mem_cons_iff]
      rfl
  rw [OpBindings.MentionsParsed, toList_text, chars, each]
  constructor
  · rintro ⟨line, mem, mentions⟩
    obtain ⟨text, depth, among, rfl⟩ := exists_of_mem_lines mem
    exact ⟨text, among, (mentionsParsed_laid_iff depth).mp mentions⟩
  · rintro ⟨text, among, mentions⟩
    obtain ⟨depth, mem⟩ := exists_laid_mem 0 among
    exact ⟨_, mem, (mentionsParsed_laid_iff depth).mpr mentions⟩

end Code

end OpBindings
