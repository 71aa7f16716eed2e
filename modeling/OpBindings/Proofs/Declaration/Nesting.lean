/-
OpBindings.Proofs.Declaration.Nesting — what the nesting automaton leaves open.

`Nesting.after` runs the automaton over a text and `Nesting.hides` says that
no character of one kind stands outside on the way. With the two, both scans
of a declaration are cuts of the text: `group_eq_some_iff` for the parameter
group and `pieces_append_comma` for a list of items.

A text is an `IsItem` when it closes all that it opens and shows no comma.
Items survive trimming (`IsItem.trim`), and a list of them can be read back
from the text with commas between them.
-/
import Mathlib.Data.List.TakeWhile
import OpBindings.Declaration.Parser

namespace OpBindings.Declaration

open Text

/-- What holds of every character of a text is decided along the text, not by going through
all the characters there are. -/
instance decidableForallMem (p : Char → Prop) [DecidablePred p] (cs : List Char) :
    Decidable (∀ c ∈ cs, p c) := List.decidableBAll p cs

/-! ## Characters that bear on nesting -/

/-- A quote or a bracket. -/
def isMark (c : Char) : Bool :=
  c == '"' || c == '\'' || c == '(' || c == '[' || c == ')' || c == ']'

theorem isMark_iff {c : Char} :
    isMark c = true ↔ c = '"' ∨ c = '\'' ∨ c = '(' ∨ c = '[' ∨ c = ')' ∨ c = ']' := by
  simp [isMark, or_assoc]

/-- A word holds no quote and no bracket. -/
theorem isMark_of_isWordChar {c : Char} (h : isWordChar c = true) : isMark c = false := by
  rw [Bool.eq_false_iff]
  intro mark
  rcases isMark_iff.mp mark with rfl | rfl | rfl | rfl | rfl | rfl <;> revert h <;> decide

/-- A blank is no quote and no bracket. -/
theorem isMark_of_isBlank {c : Char} (h : isBlank c = true) : isMark c = false := by
  rw [Bool.eq_false_iff]
  intro mark
  rcases isMark_iff.mp mark with rfl | rfl | rfl | rfl | rfl | rfl <;> revert h <;> decide

/-- A word holds no comma. -/
theorem ne_comma_of_isWordChar {c : Char} (h : isWordChar c = true) : c ≠ ',' := by
  rintro rfl
  revert h
  decide

theorem bracketDepth_of_not_mark {c : Char} (h : isMark c = false) (depth : Nat) :
    bracketDepth depth c = depth := by
  simp only [isMark, Bool.or_eq_false_iff, beq_eq_false_iff_ne] at h
  simp [bracketDepth, h]

namespace Nesting

/-! ## Running the automaton -/

/-- What is open after a text. -/
def after (n : Nesting) (cs : List Char) : Nesting := cs.foldl step n

/-- No `mark` of the text stands outside. -/
def hides (mark : Char) (n : Nesting) : List Char → Prop
  | [] => True
  | c :: cs => ¬ (n = outside ∧ c = mark) ∧ (n.step c).hides mark cs

instance decidableHides (mark : Char) : (n : Nesting) → (cs : List Char) → Decidable (n.hides mark cs)
  | _, [] => inferInstanceAs (Decidable True)
  | n, c :: cs =>
    have : Decidable ((n.step c).hides mark cs) := decidableHides mark (n.step c) cs
    inferInstanceAs (Decidable (¬ (n = outside ∧ c = mark) ∧ (n.step c).hides mark cs))

@[simp] theorem after_nil (n : Nesting) : n.after [] = n := rfl

@[simp] theorem after_cons (n : Nesting) (c : Char) (cs : List Char) :
    n.after (c :: cs) = (n.step c).after cs := rfl

@[simp] theorem after_append (n : Nesting) (xs ys : List Char) :
    n.after (xs ++ ys) = (n.after xs).after ys := List.foldl_append

@[simp] theorem hides_nil (mark : Char) (n : Nesting) : n.hides mark [] := trivial

theorem hides_cons {mark : Char} {n : Nesting} {c : Char} {cs : List Char} :
    n.hides mark (c :: cs) ↔ ¬ (n = outside ∧ c = mark) ∧ (n.step c).hides mark cs := Iff.rfl

theorem hides_append {mark : Char} {n : Nesting} {xs ys : List Char} :
    n.hides mark (xs ++ ys) ↔ n.hides mark xs ∧ (n.after xs).hides mark ys := by
  induction xs generalizing n with
  | nil => simp
  | cons c xs ih => simp [hides_cons, ih, and_assoc]

theorem hides_of_not_mem {mark : Char} {n : Nesting} {cs : List Char} (h : mark ∉ cs) :
    n.hides mark cs := by
  induction cs generalizing n with
  | nil => exact hides_nil _ _
  | cons c cs ih =>
    obtain ⟨hc, hcs⟩ : mark ≠ c ∧ mark ∉ cs := by simpa using h
    exact ⟨fun stop => hc stop.2.symm, ih hcs⟩

theorem isOutside_iff {n : Nesting} : n.isOutside = true ↔ n = outside := by
  obtain ⟨depth, quote⟩ := n
  cases quote <;> simp [isOutside, outside]

/-- Only a quote is ever open as a quote. -/
def IsProper (n : Nesting) : Prop := ∀ q ∈ n.quote, isMark q = true

theorem isProper_outside : outside.IsProper := by
  intro q hq
  simp [outside] at hq

theorem IsProper.step {n : Nesting} (h : n.IsProper) (c : Char) : (n.step c).IsProper := by
  obtain ⟨depth, quote⟩ := n
  cases quote with
  | some q =>
    intro x hx
    by_cases e : c = q
    · simp [Nesting.step, e] at hx
    · exact h x (by simpa [Nesting.step, e] using hx)
  | none =>
    intro x hx
    simp only [Nesting.step] at hx
    split at hx
    · rename_i hc
      obtain rfl : c = x := by simpa using hx
      simp only [Bool.or_eq_true, decide_eq_true_eq] at hc
      rcases hc with rfl | rfl <;> rfl
    · simp at hx

theorem IsProper.after {n : Nesting} (h : n.IsProper) (cs : List Char) : (n.after cs).IsProper := by
  induction cs generalizing n with
  | nil => exact h
  | cons c cs ih => exact ih (h.step c)

/-- A character that is no quote and no bracket opens and closes nothing. -/
theorem step_of_not_mark {n : Nesting} (hn : n.IsProper) {c : Char} (h : isMark c = false) :
    n.step c = n := by
  obtain ⟨depth, quote⟩ := n
  cases quote with
  | none =>
    have hc := bracketDepth_of_not_mark h depth
    simp only [isMark, Bool.or_eq_false_iff, beq_eq_false_iff_ne] at h
    simp [Nesting.step, h, hc]
  | some q =>
    have hq : c ≠ q := by
      rintro rfl
      simp [hn c rfl] at h
    simp [Nesting.step, hq]

/-- A text of characters that bear on nothing leaves open what was open. -/
theorem after_of_no_mark {n : Nesting} (hn : n.IsProper) {cs : List Char}
    (h : ∀ c ∈ cs, isMark c = false) : n.after cs = n := by
  induction cs with
  | nil => rfl
  | cons c cs ih =>
    rw [after_cons, step_of_not_mark hn (h c List.mem_cons_self)]
    exact ih fun d hd => h d (List.mem_cons_of_mem c hd)

/-! ## The parameter group -/

theorem group_close (cs : List Char) : outside.group (')' :: cs) = some ([], cs) := rfl

/-- One more character belongs to the group, unless it closes it. -/
theorem group_cons {n : Nesting} {c : Char} (h : ¬ (n = outside ∧ c = ')')) (cs : List Char) :
    n.group (c :: cs) = ((n.step c).group cs).map fun (inner, rest) => (c :: inner, rest) := by
  have go : (n.isOutside && c == ')') = false := by
    rw [Bool.eq_false_iff]
    simpa [isOutside_iff] using h
  simp [group, go]

/-- **The group ends at the first parenthesis that closes nothing**: what is
read is the text before it, and nothing is open there. -/
theorem group_eq_some_iff {n : Nesting} {cs inner rest : List Char} :
    n.group cs = some (inner, rest) ↔
      cs = inner ++ ')' :: rest ∧ n.hides ')' inner ∧ n.after inner = outside := by
  induction cs generalizing n inner with
  | nil => simp [group]
  | cons c cs ih =>
    by_cases stop : n = outside ∧ c = ')'
    · obtain ⟨rfl, rfl⟩ := stop
      rw [group_close]
      cases inner with
      | nil => simp [eq_comm]
      | cons d inner =>
        simp only [Option.some.injEq, Prod.mk.injEq, List.cons_append, List.cons.injEq]
        constructor
        · intro h
          obtain ⟨h, -⟩ := h
          cases h
        · intro h
          obtain ⟨h, hidden, -⟩ := h
          exact (hidden.1 ⟨rfl, h.1.symm⟩).elim
    · rw [group_cons stop]
      simp only [Option.map_eq_some_iff, Prod.exists, Prod.mk.injEq]
      cases inner with
      | nil =>
        constructor
        · intro h
          obtain ⟨_, _, _, h, -⟩ := h
          cases h
        · intro h
          obtain ⟨h, -, rfl⟩ := h
          cases h
          exact absurd ⟨rfl, rfl⟩ stop
      | cons d inner =>
        simp only [List.cons.injEq, List.cons_append, hides_cons, after_cons]
        constructor
        · intro h
          obtain ⟨x, y, hxy, ⟨rfl, rfl⟩, rfl⟩ := h
          obtain ⟨hcs, hhides, hafter⟩ := ih.mp hxy
          exact ⟨⟨rfl, hcs⟩, ⟨stop, hhides⟩, hafter⟩
        · intro h
          obtain ⟨⟨rfl, hcs⟩, ⟨-, hhides⟩, hafter⟩ := h
          exact ⟨inner, rest, ih.mpr ⟨hcs, hhides, hafter⟩, ⟨rfl, rfl⟩, rfl⟩

/-! ## The pieces of a list -/

theorem pieces_ne_nil (n : Nesting) (cs : List Char) : n.pieces cs ≠ [] := by
  cases cs with
  | nil => simp [pieces]
  | cons c cs =>
    simp only [pieces]
    split
    · simp
    · split <;> simp

/-- One more character belongs to the first piece, unless it is a comma outside. -/
theorem pieces_cons {n : Nesting} {c : Char} {cs piece : List Char} {rest : List (List Char)}
    (h : ¬ (n = outside ∧ c = ',')) (hp : (n.step c).pieces cs = piece :: rest) :
    n.pieces (c :: cs) = (c :: piece) :: rest := by
  have go : (n.isOutside && c == ',') = false := by
    rw [Bool.eq_false_iff]
    simpa [isOutside_iff] using h
  simp [pieces, go, hp]

/-- A text that hides its commas is one piece. -/
theorem pieces_of_hides {n : Nesting} {cs : List Char} (h : n.hides ',' cs) :
    n.pieces cs = [cs] := by
  induction cs generalizing n with
  | nil => rfl
  | cons c cs ih => exact pieces_cons h.1 (ih h.2)

/-- **A comma outside ends a piece**, and what follows is cut by itself. -/
theorem pieces_append_comma {n : Nesting} {xs ys : List Char} (h : n.hides ',' xs)
    (closed : n.after xs = outside) :
    n.pieces (xs ++ ',' :: ys) = xs :: outside.pieces ys := by
  induction xs generalizing n with
  | nil =>
    obtain rfl : n = outside := closed
    simp [pieces, isOutside_iff]
  | cons c xs ih => exact pieces_cons h.1 (ih h.2 closed)

/-- The text is one item of a list: it closes what it opens and hides its commas. -/
structure IsItem (cs : List Char) : Prop where
  closes : outside.after cs = outside
  hidesCommas : outside.hides ',' cs

/-- **Cutting a text that closes what it opens gives items.** -/
theorem isItem_of_mem_pieces {n : Nesting} {cs piece : List Char} {rest : List (List Char)}
    (closed : n.after cs = outside) (h : n.pieces cs = piece :: rest) :
    (n.after piece = outside ∧ n.hides ',' piece) ∧ ∀ item ∈ rest, IsItem item := by
  induction cs generalizing n piece rest with
  | nil =>
    obtain ⟨rfl, rfl⟩ : [] = piece ∧ [] = rest := by simpa [pieces] using h
    exact ⟨⟨closed, hides_nil _ _⟩, by simp⟩
  | cons c cs ih =>
    obtain ⟨first, others, hp⟩ := List.exists_cons_of_ne_nil (pieces_ne_nil (n.step c) cs)
    by_cases stop : n = outside ∧ c = ','
    · obtain ⟨rfl, rfl⟩ := stop
      have same : outside.step ',' = outside := rfl
      rw [after_cons, same] at closed
      rw [same] at hp
      obtain ⟨rfl, rfl⟩ : [] = piece ∧ first :: others = rest := by
        simpa [pieces, isOutside_iff, hp] using h
      obtain ⟨hfirst, hothers⟩ := ih closed hp
      refine ⟨⟨rfl, hides_nil _ _⟩, ?_⟩
      intro item hitem
      rcases List.mem_cons.mp hitem with rfl | hitem
      · exact ⟨hfirst.1, hfirst.2⟩
      · exact hothers item hitem
    · rw [pieces_cons stop hp] at h
      obtain ⟨rfl, rfl⟩ : c :: first = piece ∧ others = rest := by simpa using h
      obtain ⟨hfirst, hothers⟩ := ih closed hp
      exact ⟨⟨hfirst.1, stop, hfirst.2⟩, hothers⟩

namespace IsItem

/-- A part of an item that begins and ends outside is an item. -/
theorem of_append {xs ys zs : List Char} (h : IsItem (xs ++ ys ++ zs))
    (before : outside.after xs = outside) (here : outside.after ys = outside) : IsItem ys := by
  have hidden := (hides_append.mp (hides_append.mp h.hidesCommas).1).2
  rw [before] at hidden
  exact ⟨here, hidden⟩

/-- What follows a part of an item that ends outside is an item. -/
theorem of_append_right {xs ys : List Char} (h : IsItem (xs ++ ys))
    (before : outside.after xs = outside) : IsItem ys := by
  have whole := h.closes
  rw [after_append, before] at whole
  rw [← List.append_nil (xs ++ ys)] at h
  exact h.of_append before whole

theorem append {xs ys : List Char} (hx : IsItem xs) (hy : IsItem ys) : IsItem (xs ++ ys) where
  closes := by rw [after_append, hx.closes, hy.closes]
  hidesCommas := hides_append.mpr ⟨hx.hidesCommas, by rw [hx.closes]; exact hy.hidesCommas⟩

/-- A text without quotes, brackets and commas is an item. -/
theorem of_no_mark {cs : List Char} (h : ∀ c ∈ cs, isMark c = false) (commas : ',' ∉ cs) :
    IsItem cs where
  closes := after_of_no_mark isProper_outside h
  hidesCommas := hides_of_not_mem commas

/-- The same for a text that is given. -/
theorem of_all {cs : List Char} (h : (cs.all fun c => !isMark c && c != ',') = true) :
    IsItem cs := by
  simp only [List.all_eq_true, Bool.and_eq_true, Bool.not_eq_true', bne_iff_ne] at h
  exact .of_no_mark (fun c hc => (h c hc).1) fun comma => (h ',' comma).2 rfl

end IsItem

end Nesting

/-! ## Items without their blanks -/

/-- Trimming takes blanks off both ends and nothing else. -/
theorem exists_blanks_trim (cs : List Char) :
    ∃ lead trail, cs = lead ++ trim cs ++ trail ∧
      (∀ c ∈ lead, isBlank c = true) ∧ ∀ c ∈ trail, isBlank c = true := by
  refine ⟨cs.takeWhile isBlank, ((dropBlanks cs).reverse.takeWhile isBlank).reverse, ?_, ?_, ?_⟩
  · have back (xs : List Char) :
        dropTrailingBlanks xs ++ (xs.reverse.takeWhile isBlank).reverse = xs := by
      rw [dropTrailingBlanks, dropBlanks, ← List.reverse_append,
        List.takeWhile_append_dropWhile, List.reverse_reverse]
    rw [List.append_assoc, trim, back, dropBlanks, List.takeWhile_append_dropWhile]
  · intro c hc
    exact List.mem_takeWhile_imp hc
  · intro c hc
    exact List.mem_takeWhile_imp (List.mem_reverse.mp hc)

namespace Nesting

theorem IsItem.trim {cs : List Char} (h : IsItem cs) : IsItem (Text.trim cs) := by
  obtain ⟨lead, trail, split, hlead, htrail⟩ := exists_blanks_trim cs
  have noMark : ∀ {xs : List Char}, (∀ c ∈ xs, isBlank c = true) → ∀ c ∈ xs, isMark c = false :=
    fun blank c hc => isMark_of_isBlank (blank c hc)
  have before : outside.after lead = outside := after_of_no_mark isProper_outside (noMark hlead)
  rw [split] at h
  refine h.of_append before ?_
  have whole := h.closes
  rw [after_append, after_append, before,
    after_of_no_mark (isProper_outside.after _) (noMark htrail)] at whole
  exact whole

end Nesting

open Nesting

/-- **The items of a parameter list are items**, where the list closes what it opens. -/
theorem isItem_of_mem_splitCommas {cs : List Char} (closed : outside.after cs = outside)
    {item : List Char} (h : item ∈ splitCommas cs) : IsItem item := by
  have trimmed : item ∈ (outside.pieces cs).map trim := by
    unfold splitCommas at h
    split at h
    · cases h
    · exact h
  obtain ⟨piece, hpiece, rfl⟩ := List.mem_map.mp trimmed
  obtain ⟨first, rest, hp⟩ := List.exists_cons_of_ne_nil (pieces_ne_nil outside cs)
  obtain ⟨hfirst, hrest⟩ := isItem_of_mem_pieces closed hp
  rw [hp] at hpiece
  rcases List.mem_cons.mp hpiece with rfl | hpiece
  · exact IsItem.trim ⟨hfirst.1, hfirst.2⟩
  · exact (hrest piece hpiece).trim

/-! ## Reading items back -/

/-- Blanks before the first piece belong to it. -/
theorem pieces_append_of_blank {gap cs piece : List Char} {rest : List (List Char)}
    (blank : ∀ c ∈ gap, isBlank c = true) (h : outside.pieces cs = piece :: rest) :
    outside.pieces (gap ++ cs) = (gap ++ piece) :: rest := by
  induction gap with
  | nil => exact h
  | cons c gap ih =>
    have hc : isBlank c = true := blank c List.mem_cons_self
    refine pieces_cons ?_ ?_
    · rintro ⟨-, rfl⟩
      exact absurd hc (by decide)
    · rw [step_of_not_mark isProper_outside (isMark_of_isBlank hc)]
      exact ih fun d hd => blank d (List.mem_cons_of_mem c hd)

/-- The pieces of items with commas and blanks between them are the items. -/
theorem pieces_intercalate {gap item : List Char} {items : List (List Char)}
    (blank : ∀ c ∈ gap, isBlank c = true) (h : IsItem item) (hs : ∀ i ∈ items, IsItem i) :
    outside.pieces ((',' :: gap).intercalate (item :: items)) = item :: items.map (gap ++ ·) := by
  induction items generalizing item with
  | nil => rw [List.intercalate_singleton, pieces_of_hides h.hidesCommas, List.map_nil]
  | cons next items ih =>
    have rest := ih (hs next List.mem_cons_self) fun i hi => hs i (List.mem_cons_of_mem next hi)
    rw [List.intercalate_cons_cons, List.append_assoc, List.cons_append,
      pieces_append_comma h.hidesCommas h.closes, pieces_append_of_blank blank rest, List.map_cons]

/-- **Items are read back from the text with commas between them.** -/
theorem intercalate_injective {xs ys : List (List Char)}
    (hx : ∀ x ∈ xs, IsItem x ∧ x ≠ []) (hy : ∀ y ∈ ys, IsItem y ∧ y ≠ [])
    (h : [',', ' '].intercalate xs = [',', ' '].intercalate ys) : xs = ys := by
  have nonempty : ∀ {z : List Char} {zs : List (List Char)},
      z ≠ [] → [',', ' '].intercalate (z :: zs) ≠ [] := by
    intro z zs hz
    obtain ⟨c, cs, rfl⟩ := List.exists_cons_of_ne_nil hz
    rw [List.intercalate_cons_cons_left]
    exact List.cons_ne_nil _ _
  cases xs with
  | nil =>
    cases ys with
    | nil => rfl
    | cons y ys => exact absurd h.symm (nonempty (hy y List.mem_cons_self).2)
  | cons x xs =>
    cases ys with
    | nil => exact absurd h (nonempty (hx x List.mem_cons_self).2)
    | cons y ys =>
      have blank : ∀ c ∈ [' '], isBlank c = true := by decide
      have px := pieces_intercalate blank (hx x List.mem_cons_self).1 fun i hi =>
        (hx i (List.mem_cons_of_mem x hi)).1
      have py := pieces_intercalate blank (hy y List.mem_cons_self).1 fun i hi =>
        (hy i (List.mem_cons_of_mem y hi)).1
      rw [h, py, List.cons.injEq] at px
      obtain ⟨rfl, rest⟩ := px
      rw [(List.map_inj_right fun _ _ e => (List.cons.inj e).2).mp rest]

end OpBindings.Declaration
