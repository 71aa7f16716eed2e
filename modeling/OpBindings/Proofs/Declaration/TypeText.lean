/-
OpBindings.Proofs.Declaration.TypeText — a written type is one part of the line.

Five scanners go over a written type: the parameter group, the commas, the
blank after a type, the parentheses of an annotation and the brackets of a
size. A type is made of parts that disturb none of the first three (`IsTypePart`,
`isTypePart_printType`), and the last two find what was written
(`cutAliasing_eq`, `listSize_eq`).
-/
import Mathlib.Data.List.Basic
import OpBindings.Proofs.Declaration.Printer
import OpBindings.Proofs.Text.Trim

namespace OpBindings.Declaration

open Nesting Text

/-! ## Words -/

/-- A word character is none that separates, nests or marks anything. -/
theorem ne_of_isWordChar {c d : Char} (h : isWordChar c = true) (hd : isWordChar d = false) :
    c ≠ d := by
  rintro rfl
  rw [h] at hd
  cases hd

theorem isBlank_of_isWordChar {c : Char} (h : isWordChar c = true) : isBlank c = false := by
  rw [Bool.eq_false_iff]
  intro blank
  rcases Bool.or_eq_true_iff.mp h with letter | line
  · rw [isAlphanumeric_of_isBlank blank] at letter
    cases letter
  · rw [beq_iff_eq.mp line] at blank
    exact absurd blank (by decide)

namespace IsWord

variable {word : List Char}

theorem startsPlain (h : IsWord word) : StartsPlain word := by
  obtain ⟨c, rest, rfl⟩ := List.exists_cons_of_ne_nil h.nonempty
  exact ⟨c, rest, rfl, isBlank_of_isWordChar (h.plain c List.mem_cons_self)⟩

theorem endsPlain (h : IsWord word) : EndsPlain word := by
  refine ⟨word.dropLast, word.getLast h.nonempty, (List.dropLast_append_getLast h.nonempty).symm, ?_⟩
  exact isBlank_of_isWordChar (h.plain _ (List.getLast_mem h.nonempty))

theorem not_mem (h : IsWord word) {d : Char} (hd : isWordChar d = false) : d ∉ word := by
  intro mem
  exact ne_of_isWordChar (h.plain d mem) hd rfl

theorem all (h : IsWord word) : word.all isWordChar = true := List.all_eq_true.mpr h.plain

end IsWord

/-! ## Parts that nothing disturbs -/

/-- No blank of the text stands outside brackets. -/
def hidesBlanks : Nat → List Char → Prop
  | _, [] => True
  | depth, c :: cs => ¬ (isBlank c = true ∧ depth = 0) ∧ hidesBlanks (bracketDepth depth c) cs

theorem hidesBlanks_append {depth : Nat} {xs ys : List Char} :
    hidesBlanks depth (xs ++ ys) ↔
      hidesBlanks depth xs ∧ hidesBlanks (xs.foldl bracketDepth depth) ys := by
  induction xs generalizing depth with
  | nil => simp [hidesBlanks]
  | cons c xs ih => simp [hidesBlanks, ih, and_assoc]

theorem hidesBlanks_of_no_blank {depth : Nat} {cs : List Char}
    (h : ∀ c ∈ cs, isBlank c = false) : hidesBlanks depth cs := by
  induction cs generalizing depth with
  | nil => trivial
  | cons c cs ih =>
    have head := h c List.mem_cons_self
    exact ⟨by simp [head], ih fun d hd => h d (List.mem_cons_of_mem c hd)⟩

theorem foldl_bracketDepth {cs : List Char} (h : ∀ c ∈ cs, isMark c = false) (depth : Nat) :
    cs.foldl bracketDepth depth = depth := by
  induction cs with
  | nil => rfl
  | cons c cs ih =>
    rw [List.foldl_cons, bracketDepth_of_not_mark (h c List.mem_cons_self)]
    exact ih fun d hd => h d (List.mem_cons_of_mem c hd)

/-- Inside brackets a blank belongs to the text. -/
theorem hidesBlanks_inside {depth : Nat} {cs : List Char} (h : ∀ c ∈ cs, isMark c = false) :
    hidesBlanks (depth + 1) cs := by
  induction cs with
  | nil => trivial
  | cons c cs ih =>
    refine ⟨by simp, ?_⟩
    rw [bracketDepth_of_not_mark (h c List.mem_cons_self)]
    exact ih fun d hd => h d (List.mem_cons_of_mem c hd)

/-- Inside brackets nothing stands outside. -/
theorem hides_inside {mark : Char} {n : Nesting} (proper : n.IsProper) (inside : n ≠ outside)
    {cs : List Char} (h : ∀ c ∈ cs, isMark c = false) : n.hides mark cs := by
  induction cs with
  | nil => exact hides_nil _ _
  | cons c cs ih =>
    refine ⟨fun stop => inside stop.1, ?_⟩
    rw [step_of_not_mark proper (h c List.mem_cons_self)]
    exact ih fun d hd => h d (List.mem_cons_of_mem c hd)

namespace IsEnclosed

theorem append {xs ys : List Char} (hx : IsEnclosed xs) (hy : IsEnclosed ys) :
    IsEnclosed (xs ++ ys) where
  toIsItem := hx.toIsItem.append hy.toIsItem
  closesNoOther := hides_append.mpr ⟨hx.closesNoOther, by rw [hx.closes]; exact hy.closesNoOther⟩

theorem of_no_mark {cs : List Char} (h : ∀ c ∈ cs, isMark c = false) (commas : ',' ∉ cs) :
    IsEnclosed cs where
  toIsItem := .of_no_mark h commas
  closesNoOther := hides_of_not_mem fun close => absurd (h ')' close) (by decide)

theorem nil : IsEnclosed [] := .of_no_mark (by simp) (by simp)

theorem of_blank {cs : List Char} (h : ∀ c ∈ cs, isBlank c = true) : IsEnclosed cs :=
  .of_no_mark (fun c hc => isMark_of_isBlank (h c hc)) fun comma => absurd (h ',' comma) (by decide)

theorem of_word {word : List Char} (h : IsWord word) : IsEnclosed word :=
  .of_no_mark (fun c hc => isMark_of_isWordChar (h.plain c hc)) (h.not_mem (by decide))

end IsEnclosed

/-- A part of a type: it is enclosed and no blank in it ends the type. -/
structure IsTypePart (cs : List Char) : Prop extends IsEnclosed cs where
  noBlank : hidesBlanks 0 cs
  balanced : cs.foldl bracketDepth 0 = 0

namespace IsTypePart

theorem append {xs ys : List Char} (hx : IsTypePart xs) (hy : IsTypePart ys) :
    IsTypePart (xs ++ ys) where
  toIsEnclosed := hx.toIsEnclosed.append hy.toIsEnclosed
  noBlank := hidesBlanks_append.mpr ⟨hx.noBlank, by rw [hx.balanced]; exact hy.noBlank⟩
  balanced := by rw [List.foldl_append, hx.balanced, hy.balanced]

theorem of_no_mark {cs : List Char} (h : ∀ c ∈ cs, isMark c = false) (commas : ',' ∉ cs)
    (blanks : ∀ c ∈ cs, isBlank c = false) : IsTypePart cs where
  toIsEnclosed := .of_no_mark h commas
  noBlank := hidesBlanks_of_no_blank blanks
  balanced := foldl_bracketDepth h 0

theorem of_word {word : List Char} (h : IsWord word) : IsTypePart word :=
  .of_no_mark (fun c hc => isMark_of_isWordChar (h.plain c hc)) (h.not_mem (by decide))
    fun c hc => isBlank_of_isWordChar (h.plain c hc)

theorem nil : IsTypePart [] := .of_no_mark (by simp) (by simp) (by simp)

/-- Between brackets of a kind anything may stand that opens and closes nothing. -/
theorem of_brackets {opening closing : Char} {inside : List Char}
    (kind : opening = '(' ∧ closing = ')' ∨ opening = '[' ∧ closing = ']')
    (h : ∀ c ∈ inside, isMark c = false) : IsTypePart (opening :: (inside ++ [closing])) := by
  have opens : outside.step opening = ⟨1, none⟩ := by
    rcases kind with ⟨rfl, rfl⟩ | ⟨rfl, rfl⟩ <;> rfl
  have closes : (Nesting.mk 1 none).step closing = outside := by
    rcases kind with ⟨rfl, rfl⟩ | ⟨rfl, rfl⟩ <;> rfl
  have proper : (Nesting.mk 1 none).IsProper := by simp [Nesting.IsProper]
  have stays : (Nesting.mk 1 none).after inside = ⟨1, none⟩ := after_of_no_mark proper h
  have hides : ∀ mark, opening ≠ mark → outside.hides mark (opening :: (inside ++ [closing])) := by
    intro mark other
    refine ⟨fun stop => other stop.2, ?_⟩
    rw [opens, hides_append, stays]
    exact ⟨hides_inside proper (by decide) h, by simp [hides_cons, outside]⟩
  have deeper : bracketDepth 0 opening = 1 := by
    rcases kind with ⟨rfl, rfl⟩ | ⟨rfl, rfl⟩ <;> rfl
  have back : bracketDepth 1 closing = 0 := by
    rcases kind with ⟨rfl, rfl⟩ | ⟨rfl, rfl⟩ <;> rfl
  have plain : isBlank opening = false := by
    rcases kind with ⟨rfl, rfl⟩ | ⟨rfl, rfl⟩ <;> decide
  refine ⟨⟨⟨?_, hides ',' ?_⟩, hides ')' ?_⟩, ?_, ?_⟩
  · rw [after_cons, opens, after_append, stays, after_cons, closes, after_nil]
  · rcases kind with ⟨rfl, rfl⟩ | ⟨rfl, rfl⟩ <;> decide
  · rcases kind with ⟨rfl, rfl⟩ | ⟨rfl, rfl⟩ <;> decide
  · refine ⟨by simp [plain], ?_⟩
    rw [deeper, hidesBlanks_append, foldl_bracketDepth h]
    exact ⟨hidesBlanks_inside h, by simp [hidesBlanks]⟩
  · rw [List.foldl_cons, deeper, List.foldl_append, foldl_bracketDepth h, List.foldl_cons, back,
      List.foldl_nil]

end IsTypePart

/-! ## Types -/

/-- An annotation stands in its parentheses. -/
theorem isTypePart_aliasChars {aliasing : Option String} (h : IsAliasText aliasing) :
    IsTypePart (aliasChars aliasing) := by
  cases aliasing with
  | none => exact .nil
  | some text => exact .of_brackets (.inl ⟨rfl, rfl⟩) fun c hc => (h text rfl c hc).1

theorem isTypePart_markChars (here : Bool) : IsTypePart (markChars here) := by
  cases here with
  | false => exact .nil
  | true => exact .of_no_mark (by decide) (by decide) (by decide)

/-- Digits are read as the number that they write. -/
theorem natural?_of_isDigit {digits : List Char} (nonempty : digits ≠ [])
    (h : ∀ c ∈ digits, c.isDigit = true) :
    natural? 10 digits = some (Nat.ofDigitChars 10 digits 0) := by
  have value : ∀ c ∈ digits, digitValue c = c.toNat - '0'.toNat := by
    intro c hc
    rw [digitValue, if_pos (h c hc)]
  have small : ∀ c ∈ digits, digitValue c < 10 := by
    intro c hc
    have bounds := h c hc
    simp only [Char.isDigit, Bool.and_eq_true, decide_eq_true_eq, UInt32.le_iff_toNat_le] at bounds
    have same : c.toNat = c.val.toNat := rfl
    have ends : '0'.toNat = 48 ∧ '9'.val.toNat = 57 := ⟨rfl, rfl⟩
    rw [value c hc]
    omega
  have all : digits.all (digitValue · < 10) = true :=
    List.all_eq_true.mpr fun c hc => decide_eq_true (small c hc)
  have some : (digits.isEmpty || !digits.all (digitValue · < 10)) = false := by
    simp [nonempty, all]
  rw [natural?, some, Nat.ofDigitChars]
  refine congrArg Option.some (List.foldl_ext _ _ _ fun sum c hc => ?_)
  rw [value c hc]

/-- A digit opens and closes nothing. -/
theorem isMark_of_isDigit {c : Char} (h : c.isDigit = true) : isMark c = false := by
  rw [Bool.eq_false_iff]
  intro mark
  rcases isMark_iff.mp mark with rfl | rfl | rfl | rfl | rfl | rfl <;> revert h <;> decide

namespace IsTypeText

variable {type : List Char} {inside : Option (List Char)}

/-- A type falls into its word and its brackets. -/
theorem parts (h : IsTypeText type inside) :
    IsWord (typeWord type) ∧ typeBrackets type = bracketed inside := by
  obtain ⟨word, hword, rfl⟩ := h.word
  have plain : ∀ c ∈ word, (c != '[') = true := by
    intro c hc
    rw [bne_iff_ne]
    exact ne_of_isWordChar (hword.plain c hc) (by decide)
  have stop : (bracketed inside).takeWhile (· != '[') = [] ∧
      (bracketed inside).dropWhile (· != '[') = bracketed inside := by
    cases inside <;> simp [bracketed]
  rw [typeWord, typeBrackets, List.takeWhile_append_of_pos plain, List.dropWhile_append_of_pos plain,
    stop.1, stop.2, List.append_nil]
  exact ⟨hword, rfl⟩

/-- The parts make the type. -/
theorem append_eq (h : IsTypeText type inside) : typeWord type ++ bracketed inside = type := by
  rw [← h.parts.2]
  exact List.takeWhile_append_dropWhile

theorem isTypePart_brackets (h : IsTypeText type inside) : IsTypePart (bracketed inside) := by
  cases hinside : inside with
  | none => exact .nil
  | some digits =>
    exact .of_brackets (.inr ⟨rfl, rfl⟩) fun c hc => isMark_of_isDigit (h.digits digits hinside c hc)

/-- In the brackets nothing stands but digits. -/
theorem not_mem_brackets (h : IsTypeText type inside) {c : Char} (noDigit : c.isDigit = false)
    (other : c ≠ '[' ∧ c ≠ ']') : c ∉ bracketed inside := by
  cases inside with
  | none => simp [bracketed]
  | some digits =>
    have inDigits : c ∉ digits := fun mem =>
      absurd (h.digits digits rfl c mem) (Bool.eq_false_iff.mp noDigit)
    simp [bracketed, inDigits, other]

end IsTypeText

section Types

variable {type : List Char} {inside : Option (List Char)} {aliasing : Option String}
  {optional : Bool} {place : OptionalPlace}

/-- **A written type is one part**: no scanner stops inside it. -/
theorem isTypePart_printType (ht : IsTypeText type inside) (ha : IsAliasText aliasing) :
    IsTypePart (printType type aliasing optional place) := by
  obtain ⟨word, brackets⟩ := ht.parts
  unfold printType
  rw [brackets]
  exact (IsTypePart.of_word word).append ((isTypePart_markChars _).append
    ((isTypePart_aliasChars ha).append ((isTypePart_markChars _).append
      (ht.isTypePart_brackets.append (isTypePart_markChars _)))))

theorem startsPlain_printType (ht : IsTypeText type inside) :
    StartsPlain (printType type aliasing optional place) := ht.parts.1.startsPlain.append _

/-- A written type begins with a letter of its word. -/
theorem exists_cons_printType (ht : IsTypeText type inside) :
    ∃ c rest, printType type aliasing optional place = c :: rest ∧ isWordChar c = true := by
  obtain ⟨word, -⟩ := ht.parts
  obtain ⟨c, rest, split⟩ := List.exists_cons_of_ne_nil word.nonempty
  have letter : isWordChar c = true := word.plain c (by rw [split]; exact List.mem_cons_self)
  unfold printType
  rw [split, List.cons_append]
  exact ⟨c, _, rfl, letter⟩

theorem keepsEnd_markChars (here : Bool) : KeepsEnd (markChars here) := by
  cases here with
  | false => exact .inl rfl
  | true => exact .inr ⟨[], '?', rfl, by decide⟩

theorem endsPlain_printType (ht : IsTypeText type inside) :
    EndsPlain (printType type aliasing optional place) := by
  obtain ⟨word, brackets⟩ := ht.parts
  have aliased : KeepsEnd (aliasChars aliasing) := by
    cases aliasing with
    | none => exact .inl rfl
    | some text => exact .inr ⟨'(' :: text.toList, ')', rfl, by decide⟩
  have list : KeepsEnd (bracketed inside) := by
    cases inside with
    | none => exact .inl rfl
    | some digits => exact .inr ⟨'[' :: digits, ']', rfl, by decide⟩
  unfold printType
  rw [brackets]
  exact word.endsPlain.append_of_keepsEnd ((keepsEnd_markChars _).append
    (aliased.append ((keepsEnd_markChars _).append (list.append (keepsEnd_markChars _)))))

/-- No part of a type but the mark itself holds a `?`. -/
theorem not_mem_parts (ht : IsTypeText type inside) (ha : IsAliasText aliasing) :
    '?' ∉ typeWord type ∧ '?' ∉ aliasChars aliasing ∧ '?' ∉ bracketed inside := by
  refine ⟨ht.parts.1.not_mem (by decide), ?_, ht.not_mem_brackets (by decide) (by decide)⟩
  cases aliasing with
  | none => simp [aliasChars]
  | some text =>
    have inText : '?' ∉ text.toList := fun mem => (ha text rfl _ mem).2 rfl
    simp [aliasChars, inText]

/-- The `?` is found where it was written. -/
theorem contains_printType (ht : IsTypeText type inside) (ha : IsAliasText aliasing) :
    (printType type aliasing optional place).contains '?' = optional := by
  obtain ⟨word, aliased, list⟩ := not_mem_parts ht ha
  simp only [printType, ht.parts.2, List.contains_eq_mem, List.mem_append, word, aliased, list,
    false_or]
  cases optional <;> cases place <;> simp [markChars]

/-- Without its `?` a type is its word, its annotation and its brackets. -/
theorem filter_printType (ht : IsTypeText type inside) (ha : IsAliasText aliasing) :
    (printType type aliasing optional place).filter (· != '?') =
      typeWord type ++ (aliasChars aliasing ++ bracketed inside) := by
  obtain ⟨word, aliased, list⟩ := not_mem_parts ht ha
  have whole : ∀ {cs : List Char}, '?' ∉ cs → cs.filter (· != '?') = cs := by
    intro cs h
    refine List.filter_eq_self.mpr fun c hc => ?_
    rw [bne_iff_ne]
    rintro rfl
    exact h hc
  have gone : ∀ here : Bool, (markChars here).filter (· != '?') = [] := by decide
  simp only [printType, ht.parts.2, List.filter_append, whole word, whole aliased, whole list,
    gone, List.nil_append, List.append_nil]

/-- **An annotation is cut out of its type.** -/
theorem cutAliasing_eq (ht : IsTypeText type inside) (ha : IsAliasText aliasing) :
    cutAliasing (typeWord type ++ (aliasChars aliasing ++ bracketed inside)) =
      .ok (type, aliasing) := by
  have word := ht.parts.1
  unfold cutAliasing
  cases aliasing with
  | none =>
    have none : '(' ∉ type := by
      rw [← ht.append_eq, List.mem_append, not_or]
      exact ⟨word.not_mem (by decide), ht.not_mem_brackets (by decide) (by decide)⟩
    rw [aliasChars, List.nil_append, ht.append_eq, cutAt_eq_none_iff.mpr none]
  | some text =>
    have opens : cutAt '(' (typeWord type ++ (aliasChars (some text) ++ bracketed inside)) =
        some (typeWord type, text.toList ++ ')' :: bracketed inside) :=
      cutAt_eq_some_iff.mpr ⟨by simp [aliasChars], word.not_mem (by decide)⟩
    have noClosing : ')' ∉ text.toList := fun mem => absurd (ha text rfl _ mem).1 (by decide)
    have closes : cutAt ')' (text.toList ++ ')' :: bracketed inside) =
        some (text.toList, bracketed inside) := cutAt_eq_some_iff.mpr ⟨rfl, noClosing⟩
    simp only [opens, closes, ht.append_eq, String.ofList_toList]

/-- **The size of a list type is read from its brackets.** -/
theorem listSize_eq (ht : IsTypeText type inside)
    (small : ∀ size ∈ sizeInside inside, size < sizeLimit) :
    listSize type = .ok (sizeInside inside) := by
  have word := ht.parts.1
  have split := ht.append_eq
  unfold listSize
  cases inside with
  | none =>
    have none : '[' ∉ type := by
      rw [← split, bracketed, List.append_nil]
      exact word.not_mem (by decide)
    rw [cutAt_eq_none_iff.mpr none]
    rfl
  | some digits =>
    have opens : cutAt '[' type = some (typeWord type, digits ++ [']']) :=
      cutAt_eq_some_iff.mpr ⟨split.symm, word.not_mem (by decide)⟩
    have closes : cutEnd ']' (digits ++ [']']) = some digits := by simp [cutEnd]
    simp only [opens, closes]
    cases digits with
    | nil => rfl
    | cons d digits =>
      have isDigit := ht.digits _ rfl
      have noSign : d ≠ '+' := by
        rintro rfl
        exact absurd (isDigit '+' List.mem_cons_self) (by decide)
      have size := small _ rfl
      simp only [readSize, List.head?_cons, Option.some.injEq, noSign, if_false,
        natural?_of_isDigit (List.cons_ne_nil d digits) isDigit, size, if_true, sizeInside]

end Types

end OpBindings.Declaration
