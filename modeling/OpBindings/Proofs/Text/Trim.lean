/-
OpBindings.Proofs.Text.Trim — blanks at the ends of a text.

`trim` loses the blanks around a text and nothing of a text that begins and
ends otherwise. So a text can be put between any blanks and is found again
(`trim_around`), and of two parts that follow each other only the last one is
trimmed at its end (`trim_append`).
-/
import Mathlib.Data.List.TakeWhile
import OpBindings.Text.Alphanumeric
import OpBindings.Text.Blank

namespace OpBindings.Text

/-- A blank is no letter and no number. -/
theorem isAlphanumeric_of_isBlank {c : Char} (h : isBlank c = true) : isAlphanumeric c = false := by
  have apart : ∀ b ∈ blankRanges, ∀ a ∈ alphanumericRanges, a.2 < b.1 ∨ b.2 < a.1 := by
    decide +kernel
  have belowDigits : ∀ b ∈ blankRanges, b.2 < '0'.toNat ∨ 0x80 ≤ b.1 := by decide
  obtain ⟨b, hb, inside⟩ := List.any_eq_true.mp h
  simp only [Bool.and_eq_true, decide_eq_true_eq] at inside
  unfold isAlphanumeric
  split
  · have low : c.toNat < '0'.toNat := by
      rcases belowDigits b hb with below | above <;> omega
    have same : c.toNat = c.val.toNat := rfl
    have first : '0'.toNat = 48 ∧ '0'.val.toNat = 48 ∧ 'A'.val.toNat = 65 ∧ 'a'.val.toNat = 97 :=
      ⟨rfl, rfl, rfl, rfl⟩
    have letter : c.isAlpha = (c.isUpper || c.isLower) := rfl
    have upper : c.isUpper = decide ('A'.val ≤ c.val ∧ c.val ≤ 'Z'.val) := rfl
    have lower : c.isLower = (decide ('a'.val ≤ c.val) && decide (c.val ≤ 'z'.val)) := rfl
    simp only [Char.isAlphanum, letter, upper, lower, Char.isDigit, Bool.or_eq_false_iff,
      Bool.and_eq_false_iff, decide_eq_false_iff_not, ge_iff_le, UInt32.le_iff_toNat_le]
    omega
  · rw [Bool.eq_false_iff]
    intro mem
    obtain ⟨a, ha, within⟩ := List.any_eq_true.mp mem
    simp only [Bool.and_eq_true, decide_eq_true_eq] at within
    rcases apart b hb a ha with below | above <;> omega

variable {blanks cs : List Char} {c : Char}

/-! ## At the start -/

theorem dropBlanks_append (h : ∀ c ∈ blanks, isBlank c = true) (cs : List Char) :
    dropBlanks (blanks ++ cs) = dropBlanks cs := List.dropWhile_append_of_pos h

theorem dropBlanks_cons (h : isBlank c = false) (cs : List Char) :
    dropBlanks (c :: cs) = c :: cs := List.dropWhile_cons_of_neg (by simp [h])

theorem dropBlanks_of_blank (h : ∀ c ∈ blanks, isBlank c = true) : dropBlanks blanks = [] := by
  rw [← List.append_nil blanks, dropBlanks_append h]
  rfl

/-! ## At the end -/

theorem dropTrailingBlanks_append (cs : List Char) (h : ∀ c ∈ blanks, isBlank c = true) :
    dropTrailingBlanks (cs ++ blanks) = dropTrailingBlanks cs := by
  have back : ∀ c ∈ blanks.reverse, isBlank c = true := fun c hc => h c (List.mem_reverse.mp hc)
  rw [dropTrailingBlanks, List.reverse_append, dropBlanks_append back, ← dropTrailingBlanks]

/-- What stands before a character that is no blank is kept. -/
theorem dropTrailingBlanks_append_cons (h : isBlank c = false) (xs ys : List Char) :
    dropTrailingBlanks (xs ++ c :: ys) = xs ++ c :: dropTrailingBlanks ys := by
  have stop : dropBlanks (c :: xs.reverse) = c :: xs.reverse := dropBlanks_cons h _
  rw [dropTrailingBlanks, dropTrailingBlanks, List.reverse_append, List.reverse_cons,
    List.append_assoc, List.singleton_append, dropBlanks, List.dropWhile_append]
  split
  · rename_i empty
    rw [← dropBlanks, stop, dropBlanks, List.isEmpty_iff.mp empty]
    simp
  · simp [dropBlanks]

/-- Only blanks are taken off the end. -/
theorem exists_trailing (cs : List Char) :
    ∃ blanks, cs = dropTrailingBlanks cs ++ blanks ∧ ∀ c ∈ blanks, isBlank c = true := by
  refine ⟨(cs.reverse.takeWhile isBlank).reverse, ?_, ?_⟩
  · rw [dropTrailingBlanks, dropBlanks, ← List.reverse_append, List.takeWhile_append_dropWhile,
      List.reverse_reverse]
  · intro c hc
    exact List.mem_takeWhile_imp (List.mem_reverse.mp hc)

/-! ## At both ends -/

theorem trim_append_left (h : ∀ c ∈ blanks, isBlank c = true) (cs : List Char) :
    trim (blanks ++ cs) = trim cs := by
  rw [trim, dropBlanks_append h, ← trim]

theorem trim_append_right (cs : List Char) (h : ∀ c ∈ blanks, isBlank c = true) :
    trim (cs ++ blanks) = trim cs := by
  rw [trim, trim, dropBlanks, dropBlanks, List.dropWhile_append]
  split
  · rename_i empty
    rw [List.isEmpty_iff.mp empty, ← dropBlanks, dropBlanks_of_blank h]
  · exact dropTrailingBlanks_append _ h

/-- **Blanks around a text are lost.** -/
theorem trim_around {before after : List Char} (hb : ∀ c ∈ before, isBlank c = true)
    (cs : List Char) (ha : ∀ c ∈ after, isBlank c = true) :
    trim (before ++ (cs ++ after)) = trim cs := by
  rw [trim_append_left hb, trim_append_right cs ha]

theorem trim_of_blank (h : ∀ c ∈ blanks, isBlank c = true) : trim blanks = [] := by
  rw [trim, dropBlanks_of_blank h]
  rfl

/-- A text that begins with no blank is trimmed at its end only. -/
theorem trim_cons (h : isBlank c = false) (cs : List Char) :
    trim (c :: cs) = dropTrailingBlanks (c :: cs) := by
  rw [trim, dropBlanks_cons h]

theorem trim_dropTrailingBlanks (cs : List Char) : trim (dropTrailingBlanks cs) = trim cs := by
  obtain ⟨blanks, split, blank⟩ := exists_trailing cs
  have whole := trim_append_right (dropTrailingBlanks cs) blank
  rw [← split] at whole
  exact whole.symm

/-- The text begins with no blank. -/
def StartsPlain (cs : List Char) : Prop := ∃ c rest, cs = c :: rest ∧ isBlank c = false

theorem StartsPlain.append {xs : List Char} (h : StartsPlain xs) (ys : List Char) :
    StartsPlain (xs ++ ys) := by
  obtain ⟨c, rest, rfl, plain⟩ := h
  exact ⟨c, rest ++ ys, rfl, plain⟩

theorem StartsPlain.ne_nil (h : StartsPlain cs) : cs ≠ [] := by
  obtain ⟨c, rest, rfl, -⟩ := h
  exact List.cons_ne_nil c rest

/-- **Only the last part is trimmed**, where each of the two begins with no blank. -/
theorem trim_append {xs ys : List Char} (hx : StartsPlain xs) (hy : StartsPlain ys) :
    trim (xs ++ ys) = xs ++ trim ys := by
  obtain ⟨c, xs, rfl, hc⟩ := hx
  obtain ⟨d, ys, rfl, hd⟩ := hy
  rw [List.cons_append, trim_cons hc, ← List.cons_append, dropTrailingBlanks_append_cons hd,
    trim_cons hd, ← List.nil_append (d :: ys), dropTrailingBlanks_append_cons hd, List.nil_append]

/-- What is trimmed still begins with no blank. -/
theorem StartsPlain.trim (h : StartsPlain cs) : StartsPlain (Text.trim cs) := by
  obtain ⟨c, rest, rfl, plain⟩ := h
  refine ⟨c, dropTrailingBlanks rest, ?_, plain⟩
  rw [trim_cons plain, ← List.nil_append (c :: rest), dropTrailingBlanks_append_cons plain,
    List.nil_append]

theorem StartsPlain.trim_trim (h : StartsPlain cs) : Text.trim (Text.trim cs) = Text.trim cs := by
  obtain ⟨c, rest, rfl, plain⟩ := h
  rw [trim_cons plain, trim_dropTrailingBlanks, trim_cons plain]

/-- The text ends with no blank. -/
def EndsPlain (cs : List Char) : Prop := ∃ init c, cs = init ++ [c] ∧ isBlank c = false

theorem EndsPlain.append {ys : List Char} (h : EndsPlain ys) (xs : List Char) :
    EndsPlain (xs ++ ys) := by
  obtain ⟨init, c, rfl, plain⟩ := h
  exact ⟨xs ++ init, c, (List.append_assoc xs init [c]).symm, plain⟩

/-- The text can follow one that ends with no blank. -/
def KeepsEnd (cs : List Char) : Prop := cs = [] ∨ EndsPlain cs

theorem EndsPlain.append_of_keepsEnd {xs ys : List Char} (hx : EndsPlain xs) (hy : KeepsEnd ys) :
    EndsPlain (xs ++ ys) := by
  rcases hy with rfl | hy
  · rw [List.append_nil]
    exact hx
  · exact hy.append xs

theorem KeepsEnd.append {xs ys : List Char} (hx : KeepsEnd xs) (hy : KeepsEnd ys) :
    KeepsEnd (xs ++ ys) := by
  rcases hx with rfl | hx
  · exact hy
  · exact .inr (hx.append_of_keepsEnd hy)

/-- **A text that begins and ends with no blank stays as it is.** -/
theorem trim_of_plain_ends (starts : StartsPlain cs) (ends : EndsPlain cs) : trim cs = cs := by
  obtain ⟨c, rest, rfl, hc⟩ := starts
  obtain ⟨init, d, split, hd⟩ := ends
  rw [trim_cons hc, split, dropTrailingBlanks_append_cons hd]
  rfl

end OpBindings.Text
