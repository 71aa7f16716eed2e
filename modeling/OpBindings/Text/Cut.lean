/-
OpBindings.Text.Cut — cutting text at a character.

Every function here works on `List Char` by recursion on the list. The
lemmas say that a cut loses nothing but the mark it was made at.
-/

namespace OpBindings.Text

/-- The text before and after the first `mark`, or nothing where there is no mark. -/
def cutAt (mark : Char) : List Char → Option (List Char × List Char)
  | [] => none
  | c :: cs =>
    if c = mark then some ([], cs)
    else (cutAt mark cs).map fun (before, after) => (c :: before, after)

/-- The pieces between the marks: one more piece than there are marks. -/
def cutEvery (mark : Char) : List Char → List (List Char)
  | [] => [[]]
  | c :: cs =>
    if c = mark then [] :: cutEvery mark cs
    else
      match cutEvery mark cs with
      | [] => [[c]]
      | piece :: pieces => (c :: piece) :: pieces

/-- The text before a final `mark`, or nothing where the text ends otherwise. -/
def cutEnd (mark : Char) (cs : List Char) : Option (List Char) :=
  if cs.getLast? = some mark then some cs.dropLast else none

/-- Whether `word` stands somewhere in the text. -/
def occurs (word : List Char) : List Char → Bool
  | [] => word.isEmpty
  | c :: cs => word.isPrefixOf (c :: cs) || occurs word cs

/-- **A cut loses only its mark**, and the mark is the first of its kind. -/
theorem cutAt_eq_some_iff {mark : Char} {cs before after : List Char} :
    cutAt mark cs = some (before, after) ↔ cs = before ++ mark :: after ∧ mark ∉ before := by
  induction cs generalizing before with
  | nil => simp [cutAt]
  | cons c cs ih =>
    by_cases h : c = mark
    · subst h
      cases before with
      | nil => simp [cutAt, eq_comm]
      | cons b before => simp +contextual [cutAt]
    · cases before with
      | nil => simp [cutAt, h]
      | cons b before =>
        simp only [cutAt, h, if_false, Option.map_eq_some_iff, Prod.exists, Prod.mk.injEq,
          List.cons.injEq, List.cons_append, List.mem_cons, not_or]
        constructor
        · rintro ⟨x, y, hxy, ⟨rfl, rfl⟩, rfl⟩
          have := ih.1 hxy
          exact ⟨⟨rfl, this.1⟩, fun e => h e.symm, this.2⟩
        · rintro ⟨⟨rfl, hcs⟩, -, hb⟩
          exact ⟨before, after, ih.2 ⟨hcs, hb⟩, ⟨rfl, rfl⟩, rfl⟩

theorem cutAt_eq_none_iff {mark : Char} {cs : List Char} : cutAt mark cs = none ↔ mark ∉ cs := by
  induction cs with
  | nil => simp [cutAt]
  | cons c cs ih =>
    by_cases h : c = mark
    · simp [cutAt, h]
    · simp [cutAt, h, ih, Ne.symm h]

theorem cutEvery_ne_nil (mark : Char) (cs : List Char) : cutEvery mark cs ≠ [] := by
  cases cs with
  | nil => simp [cutEvery]
  | cons c cs =>
    simp only [cutEvery]
    split
    · simp
    · split <;> simp

end OpBindings.Text
