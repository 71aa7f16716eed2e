/-
OpBindings.Proofs.CodeText — the text of code, line by line.

The text of code is its lines, each with the spaces of its depth before it and a
line feed after it (`Code.toList_text`). Code that stands behind other code starts
at the depth where that code ends (`Code.lines_append`), and code that is made of
lines and closed blocks ends at the depth where it starts, so the lines of a piece
do not depend on what stands before it.
-/
import OpBindings.Code.Layout

namespace OpBindings.Code

variable {code first rest inner : Code} {depth : Nat} {text : String}

/-! ## One line -/

/-- The line of a text at `depth`. -/
def laid (depth : Nat) (text : String) : String :=
  if text.isEmpty then "" else margin depth ++ text

theorem toList_margin (depth : Nat) : (margin depth).toList = List.replicate (2 * depth) ' ' := by
  rw [margin, String.toList_join]
  induction depth with
  | zero => rfl
  | succ depth ih =>
    rw [List.replicate_succ, List.flatMap_cons, ih, Nat.mul_succ, Nat.add_comm,
      ← List.replicate_append_replicate]
    rfl

theorem toList_laid (depth : Nat) (text : String) : (laid depth text).toList =
    if text = "" then [] else List.replicate (2 * depth) ' ' ++ text.toList := by
  unfold laid
  simp only [String.isEmpty_iff]
  split
  · rfl
  · rw [String.toList_append, toList_margin]

/-- A line that has characters is the margin and a text. -/
theorem eq_of_laid {line : String} (h : line = laid depth text) (some : line ≠ "") :
    line.toList = List.replicate (2 * depth) ' ' ++ text.toList := by
  rw [h, toList_laid, if_neg]
  rintro rfl
  exact some h

/-! ## The lines of the code -/

/-- The depth at which the code ends. -/
def depthAfter (depth : Nat) : Code → Nat
  | [] => depth
  | .line _ :: rest => depthAfter depth rest
  | .indent :: rest => depthAfter (depth + 1) rest
  | .dedent :: rest => depthAfter (depth - 1) rest

@[simp] theorem depthAfter_append (depth : Nat) (first rest : Code) :
    depthAfter depth (first ++ rest) = depthAfter (depthAfter depth first) rest := by
  induction first generalizing depth with
  | nil => rfl
  | cons item first ih => cases item <;> exact ih _

/-- **Code goes on at the depth where the code before it ends.** -/
@[simp] theorem lines_append (depth : Nat) (first rest : Code) :
    lines depth (first ++ rest) = lines depth first ++ lines (depthAfter depth first) rest := by
  induction first generalizing depth with
  | nil => rfl
  | cons item first ih =>
    cases item with
    | line text => exact congrArg (_ :: ·) (ih depth)
    | indent => exact ih _
    | dedent => exact ih _

@[simp] theorem depthAfter_nil (depth : Nat) : depthAfter depth [] = depth := rfl

@[simp] theorem depthAfter_line (depth : Nat) (text : String) :
    depthAfter depth (line text) = depth := rfl

@[simp] theorem depthAfter_nested (depth : Nat) (inner : Code) :
    depthAfter depth (nested inner) = depthAfter (depth + 1) inner - 1 := by
  rw [show nested inner = [.indent] ++ (inner ++ [.dedent]) from rfl, depthAfter_append,
    depthAfter_append]
  rfl

@[simp] theorem depthAfter_block (depth : Nat) (opening closing : String) (inner : Code) :
    depthAfter depth (block opening inner closing) = depthAfter (depth + 1) inner - 1 := by
  simp [block]

@[simp] theorem lines_nil (depth : Nat) : lines depth [] = [] := rfl

@[simp] theorem lines_line (depth : Nat) (text : String) :
    lines depth (line text) = [laid depth text] := rfl

@[simp] theorem lines_nested (depth : Nat) (inner : Code) :
    lines depth (nested inner) = lines (depth + 1) inner := by
  rw [show nested inner = [.indent] ++ (inner ++ [.dedent]) from rfl, lines_append, lines_append]
  simp [lines, depthAfter]

@[simp] theorem lines_block (depth : Nat) (opening closing : String) (inner : Code) :
    lines depth (block opening inner closing) = laid depth opening ::
      (lines (depth + 1) inner ++ [laid (depthAfter (depth + 1) inner - 1) closing]) := by
  simp [block]

@[simp] theorem depthAfter_map_line (depth : Nat) (texts : List String) :
    depthAfter depth (texts.map .line) = depth := by
  induction texts with
  | nil => rfl
  | cons text texts ih => exact ih

@[simp] theorem lines_map_line (depth : Nat) (texts : List String) :
    lines depth (texts.map .line) = texts.map (laid depth) := by
  induction texts with
  | nil => rfl
  | cons text texts ih => exact congrArg (_ :: ·) ih

/-- The lines of the code are its texts, each at some depth. -/
theorem exists_of_mem_lines {line : String} : line ∈ code.lines depth →
    ∃ text depth', CodeItem.line text ∈ code ∧ line = laid depth' text := by
  induction code generalizing depth with
  | nil => intro h; cases h
  | cons item code ih =>
    intro h
    cases item with
    | line text =>
      rcases List.mem_cons.mp h with rfl | h
      · exact ⟨text, depth, List.mem_cons_self, rfl⟩
      · obtain ⟨text, depth', mem, rfl⟩ := ih h
        exact ⟨text, depth', List.mem_cons_of_mem _ mem, rfl⟩
    | indent =>
      obtain ⟨text, depth', mem, rfl⟩ := ih h
      exact ⟨text, depth', List.mem_cons_of_mem _ mem, rfl⟩
    | dedent =>
      obtain ⟨text, depth', mem, rfl⟩ := ih h
      exact ⟨text, depth', List.mem_cons_of_mem _ mem, rfl⟩

theorem exists_laid_mem (depth : Nat) (mem : CodeItem.line text ∈ code) :
    ∃ depth', laid depth' text ∈ code.lines depth := by
  induction code generalizing depth with
  | nil => cases mem
  | cons item code ih =>
    rcases List.mem_cons.mp mem with rfl | later
    · exact ⟨depth, List.mem_cons_self⟩
    · cases item with
      | line first =>
        obtain ⟨depth', found⟩ := ih depth later
        exact ⟨depth', List.mem_cons_of_mem _ found⟩
      | indent => exact ih _ later
      | dedent => exact ih _ later

/-! ## The text -/

/-- The characters of the lines at `depth`, a line feed after each of them. -/
def chars (depth : Nat) (code : Code) : List Char :=
  (code.lines depth).flatMap fun line => line.toList ++ ['\n']

theorem toList_text (code : Code) : code.text.toList = code.chars 0 := by
  rw [text, chars, String.toList_join, List.flatMap_map]
  simp

theorem chars_cons_line (depth : Nat) (text : String) (rest : Code) :
    chars depth (.line text :: rest) = (laid depth text).toList ++ '\n' :: chars depth rest := by
  simp [chars, lines, laid]

end OpBindings.Code
