/-
OpBindings.Proofs.Declaration.Defaults — what a declared default can hold.

A default is copied from the declaration as it is written, so the signature
that repeats it is only as readable as the reader was strict. It is strict
enough: a parameter list is cut where nothing is open, and a type with a
plain alias annotation leaves nothing open either, so what remains for the
default is an item by itself (`isItem_default_of_readParam`).

An alias annotation is plain when it holds no quote. One that does hides the
brackets after it from the one scan and not from the other.
-/
import OpBindings.Proofs.Declaration.Nesting
import OpBindings.Proofs.Outcome

namespace OpBindings.Declaration

open Nesting Text

/-! ## Text without quotes -/

/-- No quote of either kind stands in the text. -/
def NoQuote (cs : List Char) : Prop := '"' ∉ cs ∧ '\'' ∉ cs

instance (cs : List Char) : Decidable (NoQuote cs) := inferInstanceAs (Decidable (_ ∧ _))

theorem noQuote_append {xs ys : List Char} : NoQuote (xs ++ ys) ↔ NoQuote xs ∧ NoQuote ys := by
  simp only [NoQuote, List.mem_append, not_or]
  exact and_and_and_comm

theorem noQuote_cons {c : Char} {cs : List Char} :
    NoQuote (c :: cs) ↔ (c ≠ '"' ∧ c ≠ '\'') ∧ NoQuote cs := by
  simp only [NoQuote, List.mem_cons, not_or, ne_eq, eq_comm (b := c)]
  exact and_and_and_comm

/-- Without quotes only the brackets count. -/
theorem after_of_noQuote {cs : List Char} (h : NoQuote cs) (depth : Nat) :
    (Nesting.mk depth none).after cs = ⟨cs.foldl bracketDepth depth, none⟩ := by
  induction cs generalizing depth with
  | nil => rfl
  | cons c cs ih =>
    obtain ⟨⟨hd, hs⟩, hcs⟩ := noQuote_cons.mp h
    have one : (Nesting.mk depth none).step c = ⟨bracketDepth depth c, none⟩ := by
      simp [Nesting.step, hd, hs]
    rw [after_cons, one, ih hcs, List.foldl_cons]

/-! ## The type at the head of an item -/

/-- A type ends at a blank outside its brackets. -/
theorem cutType_eq_some {depth : Nat} {cs type rest : List Char}
    (h : cutType depth cs = some (type, rest)) :
    ∃ b tail, cs = type ++ b :: tail ∧ isBlank b = true ∧
      type.foldl bracketDepth depth = 0 ∧ rest = trim tail := by
  induction cs generalizing depth type with
  | nil => simp [cutType] at h
  | cons c cs ih =>
    by_cases stop : isBlank c = true ∧ depth = 0
    · obtain ⟨hc, rfl⟩ := stop
      simp only [cutType, hc, beq_self_eq_true, Bool.and_self, if_true] at h
      split at h
      · cases h
      · cases h
        exact ⟨c, cs, rfl, hc, rfl, rfl⟩
    · have go : (isBlank c && depth == 0) = false := by
        rw [Bool.eq_false_iff]
        simpa using stop
      simp only [cutType, go, Bool.false_eq_true, if_false, Option.map_eq_some_iff,
        Prod.exists, Prod.mk.injEq] at h
      obtain ⟨type', rest', hcut, rfl, rfl⟩ := h
      obtain ⟨b, tail, rfl, hb, hdepth, hrest⟩ := ih hcut
      exact ⟨b, tail, rfl, hb, hdepth, hrest⟩

/-- A type without quotes is written without quotes if its alias annotation is. -/
theorem noQuote_of_cutAliasing {written type : List Char} {aliasing : Option String}
    (h : cutAliasing written = .ok (type, aliasing)) (ht : NoQuote type)
    (ha : ∀ text ∈ aliasing, NoQuote text.toList) : NoQuote written := by
  unfold cutAliasing at h
  split at h
  · cases h
    exact ht
  · rename_i before rest hopen
    obtain ⟨rfl, -⟩ := cutAt_eq_some_iff.mp hopen
    split at h
    · cases h
    · rename_i inside after hclose
      obtain ⟨rfl, -⟩ := cutAt_eq_some_iff.mp hclose
      cases h
      have hinside : NoQuote inside := by simpa using ha _ rfl
      obtain ⟨hbefore, hafter⟩ := noQuote_append.mp ht
      exact noQuote_append.mpr ⟨hbefore, noQuote_cons.mpr ⟨by decide,
        noQuote_append.mpr ⟨hinside, noQuote_cons.mpr ⟨by decide, hafter⟩⟩⟩⟩

theorem noQuote_of_filter {cs : List Char} (h : NoQuote (cs.filter (· != '?'))) : NoQuote cs := by
  simpa [NoQuote] using h

/-! ## The parts of an item -/

/-- A name without a default is all that follows the type; with one, it
stands before the first `=` and the default after it, both trimmed. -/
theorem cutDefault_eq {rest name : List Char} {default : Option String}
    (h : cutDefault rest = (name, default)) {text : String} (hd : default = some text) :
    ∃ lead after, rest = lead ++ '=' :: after ∧ trim lead = name ∧ text.toList = trim after := by
  unfold cutDefault at h
  split at h
  · rename_i lead after hcut
    obtain ⟨rfl, rfl⟩ := Prod.mk.inj h
    obtain rfl := Option.some.inj hd
    exact ⟨lead, after, (cutAt_eq_some_iff.mp hcut).1, rfl, String.toList_ofList⟩
  · obtain ⟨-, rfl⟩ := Prod.mk.inj h
    cases hd

/-- **An item is a type, a blank, a name and perhaps a default.** -/
theorem readParam_eq_ok {keywordOnly : Bool} {item : List Char} {p : Param}
    (h : readParam keywordOnly item = .ok p) :
    ∃ written b tail type, item = written ++ b :: tail ∧ isBlank b = true ∧
      written.foldl bracketDepth 0 = 0 ∧
      cutAliasing (written.filter (· != '?')) = .ok (type, p.aliasing) ∧
      p.type = String.ofList type ∧
      p.name.toList ≠ [] ∧ (∀ c ∈ p.name.toList, isWordChar c = true) ∧
      cutDefault (trim tail) = (p.name.toList, p.default) := by
  unfold readParam at h
  split at h
  · cases h
  · rename_i written rest hcut
    obtain ⟨b, tail, hitem, hb, hdepth, rfl⟩ := cutType_eq_some hcut
    dsimp only at h
    split at h
    · cases h
    · rename_i hname
      obtain ⟨⟨type, aliasing⟩, haliasing, h⟩ := bind_eq_ok.mp h
      obtain ⟨size, -, h⟩ := bind_eq_ok.mp h
      cases h
      simp only [Bool.or_eq_true, List.isEmpty_iff, Bool.not_eq_true', not_or,
        Bool.not_eq_false, List.all_eq_true] at hname
      simp only [String.toList_ofList]
      exact ⟨written, b, tail, type, hitem, hb, hdepth, haliasing, rfl, hname.1, hname.2, rfl⟩

/-- **A declared default is an item**, where the type leaves nothing open. -/
theorem isItem_default_of_readParam {keywordOnly : Bool} {item : List Char} {p : Param}
    (h : readParam keywordOnly item = .ok p) (hitem : IsItem item) (htype : NoQuote p.type.toList)
    (halias : ∀ text ∈ p.aliasing, NoQuote text.toList) {text : String}
    (hdefault : p.default = some text) : IsItem text.toList := by
  obtain ⟨written, b, tail, type, rfl, hb, hdepth, haliasing, hp, -, hword, hcut⟩ :=
    readParam_eq_ok h
  obtain ⟨lead, after, htail, hlead, htext⟩ := cutDefault_eq hcut hdefault
  have htype : NoQuote type := by simpa [hp] using htype
  have hwritten : NoQuote written :=
    noQuote_of_filter (noQuote_of_cutAliasing haliasing htype halias)
  have closes : outside.after written = outside := by
    rw [show outside = Nesting.mk 0 none from rfl, after_of_noQuote hwritten, hdepth]
  have blank : outside.after [b] = outside :=
    after_of_no_mark isProper_outside (by simpa using isMark_of_isBlank hb)
  have htailItem : IsItem (trim tail) := by
    have rest : IsItem ([b] ++ tail) := hitem.of_append_right closes
    exact (rest.of_append_right blank).trim
  -- blanks, a name, blanks and the sign: nothing of it opens anything
  have closed : outside.after (lead ++ ['=']) = outside := by
    apply after_of_no_mark isProper_outside
    obtain ⟨before, behind, split, hbefore, hbehind⟩ := exists_blanks_trim lead
    intro c hc
    rw [split, hlead] at hc
    simp only [List.mem_append, List.mem_singleton, or_assoc] at hc
    rcases hc with hc | hc | hc | rfl
    · exact isMark_of_isBlank (hbefore c hc)
    · exact isMark_of_isWordChar (hword c hc)
    · exact isMark_of_isBlank (hbehind c hc)
    · decide
  rw [htail, show lead ++ '=' :: after = (lead ++ ['=']) ++ after by simp] at htailItem
  rw [htext]
  exact (htailItem.of_append_right closed).trim

/-! ## The parameters of a declaration -/

/-- Every parameter of a list is read from one of its items. -/
theorem exists_item_of_mem_readParams {keywordOnly : Bool} {items : List (List Char)}
    {params : List Param} (h : readParams keywordOnly items = .ok params) {p : Param}
    (hp : p ∈ params) : ∃ k, ∃ item ∈ items, readParam k item = .ok p := by
  induction items generalizing keywordOnly params with
  | nil =>
    cases h
    cases hp
  | cons item items ih =>
    simp only [readParams] at h
    split at h
    · split at h
      · cases h
      · obtain ⟨k, i, hi, hread⟩ := ih h hp
        exact ⟨k, i, List.mem_cons_of_mem item hi, hread⟩
    · split at h
      · cases h
      · obtain ⟨first, hfirst, h⟩ := bind_eq_ok.mp h
        obtain ⟨others, hothers, h⟩ := bind_eq_ok.mp h
        cases h
        rcases List.mem_cons.mp hp with rfl | hp
        · exact ⟨keywordOnly, item, List.mem_cons_self, hfirst⟩
        · obtain ⟨k, i, hi, hread⟩ := ih hothers hp
          exact ⟨k, i, List.mem_cons_of_mem item hi, hread⟩

/-- The parameter list of a line closes what it opens. -/
theorem closes_of_outline {cs : List Char} {line : Outline} (h : outline cs = .ok line) :
    outside.after line.params = outside := by
  unfold outline at h
  obtain ⟨⟨name, rest⟩, -, h⟩ := bind_eq_ok.mp h
  obtain ⟨⟨params, rest'⟩, hgroup, h⟩ := bind_eq_ok.mp h
  have closes : outside.after params = outside := by
    unfold cutGroup at hgroup
    split at hgroup
    · split at hgroup
      · rename_i found hfound
        cases hgroup
        exact (group_eq_some_iff.mp hfound).2.2
      · cases hgroup
    · cases hgroup
  dsimp only at h
  split at h
  · split at h
    · cases h
    · cases h
      exact closes
  · cases h

/-- **Every parameter of a declaration is read from an item.** -/
theorem exists_item_of_mem_params {text : String} {d : Declaration} (h : parse text = .ok d)
    {p : Param} (hp : p ∈ d.params) : ∃ k item, IsItem item ∧ readParam k item = .ok p := by
  obtain ⟨line, hline, h⟩ := bind_eq_ok.mp h
  obtain ⟨params, hparams, h⟩ := bind_eq_ok.mp h
  obtain ⟨items, -, h⟩ := bind_eq_ok.mp h
  obtain ⟨results, -, h⟩ := bind_eq_ok.mp h
  cases h
  obtain ⟨k, item, hitem, hread⟩ := exists_item_of_mem_readParams hparams hp
  exact ⟨k, item, isItem_of_mem_splitCommas (closes_of_outline hline) hitem, hread⟩

end OpBindings.Declaration
