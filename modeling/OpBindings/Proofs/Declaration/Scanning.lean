/-
OpBindings.Proofs.Declaration.Scanning — two scans of a declaration see one nesting.

Where the parameter group ends, brackets count with a guard: one closes only what
is open, and the first parenthesis that closes nothing ends the group
(`Nesting.guarded`). Where the commas separate, a bracket that closes nothing
leaves the depth at zero and the scan goes on (`Nesting.step`). The rules differ at
one place only, so the second scan follows the first as long as that one goes on
(`Nesting.foldlM_guarded_eq_some_iff`), and both stay within the same texts
(`guardedWithin_iff_scansWithin`). A text is therefore read as a group exactly where
the scan for commas ends outside and meets no parenthesis there, and what is cut out
of it are its items (`cutGroup_eq_ok_iff_scansWithin`).
-/
import OpBindings.Proofs.Declaration.Nesting

namespace OpBindings.Declaration

namespace Nesting

variable {n m : Nesting} {mark c : Char} {cs inner rest : List Char}

/-! ## What a scan meets -/

/-- The scan of the text meets a `mark` where nothing is open. -/
def Meets (mark : Char) (n : Nesting) (cs : List Char) : Prop :=
  ∃ before rest, cs = before ++ mark :: rest ∧ n.after before = outside

theorem hides_iff_not_meets : n.hides mark cs ↔ ¬ n.Meets mark cs := by
  induction cs generalizing n with
  | nil =>
    refine iff_of_true (hides_nil mark n) ?_
    rintro ⟨before, rest, split, -⟩
    simp at split
  | cons c cs ih =>
    rw [hides_cons, ih]
    constructor
    · rintro ⟨here, later⟩ ⟨before, rest, split, closed⟩
      cases before with
      | nil =>
        obtain ⟨rfl, rfl⟩ := List.cons.inj split
        exact here ⟨closed, rfl⟩
      | cons d before =>
        obtain ⟨rfl, rfl⟩ := List.cons.inj split
        exact later ⟨before, rest, rfl, closed⟩
    · intro none
      refine ⟨?_, ?_⟩
      · rintro ⟨rfl, rfl⟩
        exact none ⟨[], cs, rfl, rfl⟩
      · rintro ⟨before, rest, rfl, closed⟩
        exact none ⟨c :: before, rest, rfl, closed⟩

/-! ## The guarded scan -/

/-- What is open after `c` in the scan for the end of a group, which ends at the
first parenthesis that closes nothing. -/
def guarded (n : Nesting) (c : Char) : Option Nesting :=
  match n.quote with
  | some q => some (if c = q then { n with quote := none } else n)
  | none =>
    if c = '"' || c = '\'' then some { n with quote := some c }
    else if c = '(' || c = '[' then some { n with depth := n.depth + 1 }
    else if (c = ')' || c = ']') && 0 < n.depth then some { n with depth := n.depth - 1 }
    else if c = ')' then none
    else some n

/-- **The rules differ at one place**: the guarded scan ends where the other goes on. -/
theorem guarded_eq (n : Nesting) (c : Char) :
    n.guarded c = if n = outside ∧ c = ')' then none else some (n.step c) := by
  obtain ⟨depth, quote⟩ := n
  cases quote with
  | some q => simp [guarded, step, outside, apply_ite]
  | none =>
    by_cases mark : isMark c = true
    · rcases isMark_iff.mp mark with rfl | rfl | rfl | rfl | rfl | rfl <;>
        cases depth <;> simp [guarded, step, bracketDepth, outside]
    · have same := bracketDepth_of_not_mark (Bool.eq_false_iff.mpr mark) depth
      simp only [isMark_iff, not_or] at mark
      simp [guarded, step, same, mark]

/-- **As far as the guarded scan goes, the other one follows it.** -/
theorem foldlM_guarded_eq_some_iff :
    cs.foldlM guarded n = some m ↔ n.hides ')' cs ∧ n.after cs = m := by
  induction cs generalizing n with
  | nil => simp
  | cons c cs ih =>
    rw [List.foldlM_cons, guarded_eq, hides_cons, after_cons]
    split
    · rename_i stop
      simp [stop]
    · rename_i go
      simpa [go] using ih

/-- The group is what the guarded scan reads until it ends. -/
theorem group_eq_some_iff_guarded : n.group cs = some (inner, rest) ↔
    cs = inner ++ ')' :: rest ∧ ∃ m, inner.foldlM guarded n = some m ∧ m.guarded ')' = none := by
  rw [group_eq_some_iff]
  simp [foldlM_guarded_eq_some_iff, guarded_eq]

/-! ## The cut at commas -/

theorem pieces_comma (cs : List Char) : outside.pieces (',' :: cs) = [] :: outside.pieces cs := rfl

/-- The pieces with commas between them are the text. -/
theorem intercalate_pieces (n : Nesting) (cs : List Char) :
    [','].intercalate (n.pieces cs) = cs := by
  induction cs generalizing n with
  | nil => rfl
  | cons c cs ih =>
    by_cases stop : n = outside ∧ c = ','
    · obtain ⟨rfl, rfl⟩ := stop
      obtain ⟨piece, pieces, cut⟩ := List.exists_cons_of_ne_nil (pieces_ne_nil outside cs)
      have whole := ih outside
      rw [cut] at whole
      rw [pieces_comma, cut, List.intercalate_cons_cons, whole]
      rfl
    · obtain ⟨piece, pieces, cut⟩ := List.exists_cons_of_ne_nil (pieces_ne_nil (n.step c) cs)
      have whole := ih (n.step c)
      rw [cut] at whole
      rw [pieces_cons stop cut, List.intercalate_cons_cons_left, whole]

/-- No piece shows a comma: the scan of the first goes on from what was open, and
that of the others begins outside. -/
theorem hides_of_pieces {piece : List Char} {pieces : List (List Char)}
    (cut : n.pieces cs = piece :: pieces) :
    n.hides ',' piece ∧ ∀ other ∈ pieces, outside.hides ',' other := by
  induction cs generalizing n piece pieces with
  | nil =>
    obtain ⟨rfl, rfl⟩ := List.cons.inj cut
    exact ⟨hides_nil _ _, fun _ none => absurd none List.not_mem_nil⟩
  | cons c cs ih =>
    by_cases stop : n = outside ∧ c = ','
    · obtain ⟨rfl, rfl⟩ := stop
      rw [pieces_comma] at cut
      obtain ⟨rfl, rfl⟩ := List.cons.inj cut
      obtain ⟨next, others, cut'⟩ := List.exists_cons_of_ne_nil (pieces_ne_nil outside cs)
      rw [cut']
      exact ⟨hides_nil _ _, List.forall_mem_cons.mpr (ih cut')⟩
    · obtain ⟨next, others, cut'⟩ := List.exists_cons_of_ne_nil (pieces_ne_nil (n.step c) cs)
      rw [pieces_cons stop cut'] at cut
      obtain ⟨rfl, rfl⟩ := List.cons.inj cut
      obtain ⟨here, later⟩ := ih cut'
      exact ⟨⟨stop, here⟩, later⟩

end Nesting

open Nesting

/-! ## Both scans -/

/-- The scan for commas ends outside and meets no parenthesis there. -/
structure ScansWithin (cs : List Char) : Prop where
  ends : outside.after cs = outside
  closers : ¬ outside.Meets ')' cs

/-- The guarded scan reads all of the text, and ends at a parenthesis after it. -/
def GuardedWithin (cs : List Char) : Prop :=
  ∃ m, cs.foldlM guarded outside = some m ∧ m.guarded ')' = none

/-- The text is cut at its commas: the pieces give it back, and none shows a comma. -/
structure IsCutInto (cs : List Char) (pieces : List (List Char)) : Prop where
  joined : [','].intercalate pieces = cs
  hidden : ∀ piece ∈ pieces, ¬ outside.Meets ',' piece

theorem isCutInto_pieces (cs : List Char) : IsCutInto cs (outside.pieces cs) where
  joined := intercalate_pieces outside cs
  hidden := by
    obtain ⟨piece, pieces, cut⟩ := List.exists_cons_of_ne_nil (pieces_ne_nil outside cs)
    rw [cut]
    intro any mem
    exact hides_iff_not_meets.mp (List.forall_mem_cons.mpr (hides_of_pieces cut) any mem)

/-- **Both scans stay within the same texts.** -/
theorem guardedWithin_iff_scansWithin {cs : List Char} : GuardedWithin cs ↔ ScansWithin cs := by
  simp only [GuardedWithin, foldlM_guarded_eq_some_iff, guarded_eq, hides_iff_not_meets]
  constructor
  · rintro ⟨m, ⟨closers, ends⟩, stop⟩
    obtain rfl : m = outside := by simpa using stop
    exact ⟨ends, closers⟩
  · rintro ⟨ends, closers⟩
    exact ⟨outside, ⟨closers, ends⟩, if_pos ⟨rfl, trivial⟩⟩

/-- A group is read as far as the guarded scan goes. -/
theorem cutGroup_eq_ok_iff_guardedWithin {text inner rest : List Char} :
    cutGroup text = .ok (inner, rest) ↔
      text = '(' :: (inner ++ ')' :: rest) ∧ GuardedWithin inner := by
  constructor
  · intro read
    unfold cutGroup at read
    split at read
    · rename_i cs
      split at read
      · rename_i found group
        cases read
        obtain ⟨split, scanned⟩ := group_eq_some_iff_guarded.mp group
        exact ⟨congrArg ('(' :: ·) split, scanned⟩
      · cases read
    · cases read
  · rintro ⟨rfl, within⟩
    have group : outside.group (inner ++ ')' :: rest) = some (inner, rest) :=
      group_eq_some_iff_guarded.mpr ⟨rfl, within⟩
    simp [cutGroup, group]

/-- **The reader of a group and the cut at commas see the same nesting.** What is
read as a group is the text between parentheses within which the guarded scan stays;
the scan for commas stays within the same texts, so every text on which it does is
read so, whatever follows it. Cutting a text loses nothing, and leaves no comma in a
piece unless a quote or a bracket hides it. -/
theorem cutGroup_eq_ok_iff_scansWithin (text inner rest : List Char) :
    (cutGroup text = .ok (inner, rest) ↔
      text = '(' :: (inner ++ ')' :: rest) ∧ GuardedWithin inner) ∧
    (cutGroup text = .ok (inner, rest) ↔
      text = '(' :: (inner ++ ')' :: rest) ∧ ScansWithin inner) ∧
    IsCutInto inner (outside.pieces inner) := by
  refine ⟨cutGroup_eq_ok_iff_guardedWithin, ?_, isCutInto_pieces inner⟩
  rw [cutGroup_eq_ok_iff_guardedWithin, guardedWithin_iff_scansWithin]

/-- A bracket of one kind closes one of the other, for both scans. -/
example : cutGroup "([a), b]) -> c".toList = .ok ("[a), b]".toList, " -> c".toList) ∧
    outside.pieces "[a), b]".toList = ["[a)".toList, " b]".toList] := by decide

end OpBindings.Declaration
