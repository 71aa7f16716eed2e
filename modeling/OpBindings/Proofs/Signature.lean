/-
OpBindings.Proofs.Signature — the text of a signature says what it shows.

A signature is printed from a layout, and defaults are copied into it as the
declaration writes them. Still the text can be taken apart again: every part
of it is an item (`isItem_of_shown`), so the commas between the parts are the
ones outside, and each part gives back what it shows of its parameter
(`face_eq_of_shown_eq`). Two operators with the same text therefore show the
same lists (`faces_eq_of_text_eq`).

`Param.face` is what a signature shows of a parameter.
-/
import OpBindings.Proofs.ArgumentLayout
import OpBindings.Proofs.Operator
import OpBindings.Signature

namespace OpBindings

open Declaration Nesting

/-! ## What is shown -/

/-- What a signature shows of a parameter. -/
structure ShownParam where
  name : String
  type : Option ParamType
  listSize : Option Nat
  optional : Bool
  keywordOnly : Bool
  default : Option String
deriving DecidableEq, Repr

/-- The parameter as a signature shows it, before it is printed. -/
def Param.face (p : Param) : ShownParam where
  name := p.shownName
  type := ParamType.ofText? p.type
  listSize := p.listSize
  optional := p.optional
  keywordOnly := p.keywordOnly
  default := p.shownDefault

/-! ## Text before a mark -/

/-- The first mark of a text stands at one place only. -/
theorem append_mark_inj {mark : Char} {xs ys xs' ys' : List Char} (hx : mark ∉ xs)
    (hx' : mark ∉ xs') (h : xs ++ mark :: ys = xs' ++ mark :: ys') : xs = xs' ∧ ys = ys' := by
  have left : Text.cutAt mark (xs ++ mark :: ys) = some (xs, ys) :=
    Text.cutAt_eq_some_iff.mpr ⟨rfl, hx⟩
  have right : Text.cutAt mark (xs' ++ mark :: ys') = some (xs', ys') :=
    Text.cutAt_eq_some_iff.mpr ⟨rfl, hx'⟩
  rw [h, right] at left
  simpa [eq_comm] using left

/-! ## Types -/

namespace ParamType

/-- Every type of the vocabulary. -/
def all : List ParamType :=
  [tensor, tensorList, scalar, scalarList, int, intList, float, floatList, str, bool, scalarType,
    layout, device, storage, generator, memoryFormat]

/-- The type that a word of a signature names. -/
def ofSpelling? (word : String) : Option ParamType := all.find? (·.parserSpelling == word)

theorem ofSpelling?_parserSpelling (type : ParamType) :
    ofSpelling? type.parserSpelling = some type := by
  cases type <;> decide

/-- Different types have different words in a signature. -/
theorem parserSpelling_inj {a b : ParamType} (h : a.parserSpelling = b.parserSpelling) : a = b := by
  have same := ofSpelling?_parserSpelling a
  rw [h, ofSpelling?_parserSpelling] at same
  exact (Option.some.inj same).symm

/-- The word of a type holds neither a mark of nesting nor one of those that may follow it. -/
theorem parserSpelling_plain (type : ParamType) :
    ∀ c ∈ type.parserSpelling.toList,
      isMark c = false ∧ c ≠ ',' ∧ c ≠ ' ' ∧ c ≠ '[' ∧ c ≠ '?' := by
  have all : (type.parserSpelling.toList.all fun c =>
      !isMark c && c != ',' && c != ' ' && c != '[' && c != '?') = true := by
    cases type <;> decide
  simpa [List.all_eq_true, and_assoc] using all

end ParamType

/-- The mark of an optional parameter. -/
def optionalMark (optional : Bool) : List Char := if optional then ['?'] else []

/-- What follows the word of a type: its list size and the mark of an optional parameter. -/
def typeMarks (optional : Bool) : Option Nat → List Char
  | none => optionalMark optional
  | some size => '[' :: (Nat.toDigits 10 size ++ ']' :: optionalMark optional)

theorem optionalMark_inj {a b : Bool} (h : optionalMark a = optionalMark b) : a = b := by
  cases a <;> cases b <;> first | rfl | simp [optionalMark] at h

theorem isDigit_of_mem_toDigits {n : Nat} {c : Char} (h : c ∈ Nat.toDigits 10 n) :
    c.isDigit = true := Nat.isDigit_of_mem_toDigits (by decide) (by decide) h

/-- A list size is written in digits. -/
theorem not_mem_toDigits {n : Nat} {c : Char} (h : c.isDigit = false) :
    c ∉ Nat.toDigits 10 n := by
  intro hc
  rw [isDigit_of_mem_toDigits hc] at h
  cases h

theorem toDigits_inj {n m : Nat} (h : Nat.toDigits 10 n = Nat.toDigits 10 m) : n = m := by
  have value := Nat.ofDigitChars_ten_toDigits (n := n)
  rw [h, Nat.ofDigitChars_ten_toDigits] at value
  exact value.symm

/-- The marks of a type give back its list size and whether it is optional. -/
theorem typeMarks_inj {a b : Bool} {s t : Option Nat} (h : typeMarks a s = typeMarks b t) :
    s = t ∧ a = b := by
  cases s with
  | none =>
    cases t with
    | none => exact ⟨rfl, optionalMark_inj h⟩
    | some m => cases a <;> simp [typeMarks, optionalMark] at h
  | some n =>
    cases t with
    | none => cases b <;> simp [typeMarks, optionalMark] at h
    | some m =>
      obtain ⟨hdigits, hmark⟩ := append_mark_inj (not_mem_toDigits (by decide))
        (not_mem_toDigits (by decide)) (List.cons.inj h).2
      exact ⟨congrArg some (toDigits_inj hdigits), optionalMark_inj hmark⟩

/-- The marks begin with a bracket or a question mark, if there are any. -/
theorem takeWhile_typeMarks (optional : Bool) (size : Option Nat) :
    (typeMarks optional size).takeWhile (fun c => c != '[' && c != '?') = [] := by
  cases size <;> cases optional <;> simp [typeMarks, optionalMark]

/-- The type of a signature's part, without the blank after it. -/
def typeChars (type : ParamType) (optional : Bool) (size : Option Nat) : List Char :=
  type.parserSpelling.toList ++ typeMarks optional size

theorem takeWhile_typeChars (type : ParamType) (optional : Bool) (size : Option Nat) :
    (typeChars type optional size).takeWhile (fun c => c != '[' && c != '?') =
      type.parserSpelling.toList := by
  rw [typeChars, List.takeWhile_append_of_pos, takeWhile_typeMarks, List.append_nil]
  intro c hc
  obtain ⟨-, -, -, hopen, hmark⟩ := type.parserSpelling_plain c hc
  simp [hopen, hmark]

theorem typeChars_inj {a b : ParamType} {o₁ o₂ : Bool} {s t : Option Nat}
    (h : typeChars a o₁ s = typeChars b o₂ t) : a = b ∧ s = t ∧ o₁ = o₂ := by
  have word : a.parserSpelling.toList = b.parserSpelling.toList := by
    rw [← takeWhile_typeChars a o₁ s, ← takeWhile_typeChars b o₂ t, h]
  rw [typeChars, typeChars, word, List.append_cancel_left_eq] at h
  exact ⟨ParamType.parserSpelling_inj (String.toList_inj.mp word), typeMarks_inj h⟩

theorem not_mem_typeChars {type : ParamType} {optional : Bool} {size : Option Nat} :
    ' ' ∉ typeChars type optional size := by
  intro h
  rcases List.mem_append.mp h with h | h
  · exact (type.parserSpelling_plain _ h).2.2.1 rfl
  · cases size <;> cases optional <;>
      simp [typeMarks, optionalMark, not_mem_toDigits (c := ' ') (by decide)] at h

theorem isItem_optionalMark (optional : Bool) : IsItem (optionalMark optional) := by
  cases optional <;> exact .of_all (by decide)

/-- The brackets of a list size close. -/
theorem isItem_typeMarks (optional : Bool) (size : Option Nat) : IsItem (typeMarks optional size) := by
  cases size with
  | none => exact isItem_optionalMark optional
  | some n =>
    have digits : ∀ c ∈ Nat.toDigits 10 n, isMark c = false := by
      intro c hc
      rw [Bool.eq_false_iff]
      intro mark
      rcases isMark_iff.mp mark with rfl | rfl | rfl | rfl | rfl | rfl <;>
        exact absurd hc (not_mem_toDigits (by decide))
    have inside : (Nesting.mk 1 none).after (Nat.toDigits 10 n) = ⟨1, none⟩ :=
      after_of_no_mark (by simp [Nesting.IsProper]) digits
    have brackets : IsItem ('[' :: (Nat.toDigits 10 n ++ [']'])) := by
      refine ⟨?_, hides_of_not_mem ?_⟩
      · rw [after_cons, show outside.step '[' = ⟨1, none⟩ from rfl, after_append, inside]
        rfl
      · simp [not_mem_toDigits (c := ',') (by decide)]
    have whole := brackets.append (isItem_optionalMark optional)
    simpa [typeMarks] using whole

/-- A type leaves nothing open and shows no comma. -/
theorem isItem_typeChars (type : ParamType) (optional : Bool) (size : Option Nat) :
    IsItem (typeChars type optional size) := by
  refine .append (.of_no_mark ?_ ?_) (isItem_typeMarks optional size)
  · exact fun c hc => (type.parserSpelling_plain c hc).1
  · exact fun hc => (type.parserSpelling_plain _ hc).2.1 rfl

/-! ## Parts -/

/-- The default of a part, with the sign before it. -/
def defaultChars : Option String → List Char
  | none => []
  | some text => '=' :: text.toList

namespace Param

/-- **A part is a type, a blank, a name and perhaps a default.** -/
theorem shown_eq_ok {p : Param} {o : Operator} {part : String} (h : p.shown o = .ok part) :
    ∃ type, ParamType.ofText? p.type = some type ∧
      part.toList = typeChars type p.optional p.listSize ++
        ' ' :: (p.shownName.toList ++ defaultChars p.shownDefault) := by
  obtain ⟨spelled, hspelled, h⟩ := bind_eq_ok.mp h
  obtain ⟨type, htype, hspelled⟩ := bind_eq_ok.mp hspelled
  cases hspelled
  cases h
  refine ⟨type, ?_, ?_⟩
  · unfold ParamType.of at htype
    split at htype
    · rename_i known
      cases htype
      exact known
    · cases htype
  · simp only [typeChars, typeMarks, optionalMark, defaultChars]
    cases p.listSize <;> cases p.optional <;> cases p.shownDefault <;> simp

theorem shownName_word {p : Param} (h : p.IsReadable) :
    ∀ c ∈ p.shownName.toList, isWordChar c = true := by
  intro c hc
  unfold shownName at hc
  split at hc
  · exact List.all_eq_true.mp (by decide) c hc
  · exact h.name c hc

/-- The default that is shown is an item, in whichever words. -/
theorem isItem_shownDefault {p : Param} (h : p.IsReadable) {text : String}
    (hd : p.shownDefault = some text) : IsItem text.toList := by
  unfold shownDefault at hd
  split at hd
  · split at hd
    · cases hd
      exact .of_all (by decide)
    · cases hd
  · cases hd
    exact .of_all (by decide)
  · cases hd
    exact .of_all (by decide)
  · rename_i hdefault
    cases hd
    exact h.default _ hdefault

/-- **A part leaves nothing open and shows no comma.** -/
theorem isItem_of_shown {p : Param} {o : Operator} {part : String} (readable : p.IsReadable)
    (h : p.shown o = .ok part) : IsItem part.toList := by
  obtain ⟨type, -, htext⟩ := shown_eq_ok h
  have name : IsItem p.shownName.toList :=
    .of_no_mark (fun c hc => isMark_of_isWordChar (shownName_word readable c hc))
      (fun hc => ne_comma_of_isWordChar (shownName_word readable _ hc) rfl)
  have default : IsItem (defaultChars p.shownDefault) := by
    cases hd : p.shownDefault with
    | none => exact .of_no_mark (by simp [defaultChars]) (by simp [defaultChars])
    | some text =>
      have sign : IsItem ['='] := .of_all (by decide)
      exact sign.append (isItem_shownDefault readable hd)
  have blank : IsItem [' '] := .of_all (by decide)
  rw [htext]
  exact (isItem_typeChars type p.optional p.listSize).append (blank.append (name.append default))

/-- A name ends where the default begins. -/
theorem name_default_inj {n n' : List Char} {d d' : Option String} (hn : '=' ∉ n) (hn' : '=' ∉ n')
    (h : n ++ defaultChars d = n' ++ defaultChars d') : n = n' ∧ d = d' := by
  cases d with
  | none =>
    cases d' with
    | none => exact ⟨by simpa [defaultChars] using h, rfl⟩
    | some text =>
      simp only [defaultChars, List.append_nil] at h
      exact absurd (by simp [h]) hn
  | some text =>
    cases d' with
    | none =>
      simp only [defaultChars, List.append_nil] at h
      exact absurd (by simp [← h]) hn'
    | some text' =>
      obtain ⟨rfl, same⟩ := append_mark_inj hn hn' h
      exact ⟨rfl, congrArg some (String.toList_inj.mp same)⟩

/-- **A part says all that is shown of its parameter**, but for the `*`. -/
theorem face_eq_of_shown_eq {p q : Param} {o w : Operator} {part : String} (hp : p.IsReadable)
    (hq : q.IsReadable) (shown : p.shown o = .ok part) (shown' : q.shown w = .ok part)
    (marker : p.keywordOnly = q.keywordOnly) : p.face = q.face := by
  obtain ⟨type, htype, htext⟩ := shown_eq_ok shown
  obtain ⟨type', htype', htext'⟩ := shown_eq_ok shown'
  have noSign : ∀ {r : Param}, r.IsReadable → '=' ∉ r.shownName.toList := by
    intro r hr hc
    exact absurd (shownName_word hr _ hc) (by decide)
  rw [htext] at htext'
  obtain ⟨htypes, hrest⟩ := append_mark_inj not_mem_typeChars not_mem_typeChars htext'
  obtain ⟨rfl, hsize, hoptional⟩ := typeChars_inj htypes
  obtain ⟨hname, hdefault⟩ := name_default_inj (noSign hp) (noSign hq) hrest
  simp only [face, htype, htype', hsize, hoptional, marker, hdefault, String.toList_inj.mp hname]

/-- A part says no more than what is shown of its parameter. -/
theorem shown_eq_of_face_eq {p q : Param} {o w : Operator} {part : String} (same : p.face = q.face)
    (shown : p.shown o = .ok part) : q.shown w = .ok part := by
  obtain ⟨type, known, -⟩ := shown_eq_ok shown
  have known' : ParamType.ofText? q.type = some type :=
    (congrArg ShownParam.type same).symm.trans known
  have name : p.shownName = q.shownName := congrArg ShownParam.name same
  have size : p.listSize = q.listSize := congrArg ShownParam.listSize same
  have optional : p.optional = q.optional := congrArg ShownParam.optional same
  have default : p.shownDefault = q.shownDefault := congrArg ShownParam.default same
  rw [← shown]
  simp only [Param.shown, shownType, ParamType.of, known, known', name, size, optional, default]

/-- A part is not the marker: it holds the blank after its type. -/
theorem ne_marker_of_shown {p : Param} {o : Operator} {part : String} (h : p.shown o = .ok part) :
    part ≠ "*" := by
  obtain ⟨type, -, htext⟩ := shown_eq_ok h
  rintro rfl
  have blank : ' ' ∈ "*".toList := by rw [htext]; simp
  revert blank
  decide

end Param

/-! ## Lists of parts -/

/-- Once a parameter is passed by name, all that follow are. -/
def KeywordsLast : Bool → List Param → Prop
  | _, [] => True
  | byName, p :: ps =>
    (byName = true → p.keywordOnly = true) ∧ KeywordsLast (byName || p.keywordOnly) ps

theorem keywordsLast_of_forall {ps : List Param} (h : ∀ p ∈ ps, p.keywordOnly = true)
    (byName : Bool) : KeywordsLast byName ps := by
  induction ps generalizing byName with
  | nil => trivial
  | cons p ps ih =>
    exact ⟨fun _ => h p List.mem_cons_self, ih (fun q hq => h q (List.mem_cons_of_mem p hq)) _⟩

theorem keywordsLast_append {ps qs : List Param} (hp : ∀ p ∈ ps, p.keywordOnly = false)
    (hq : ∀ q ∈ qs, q.keywordOnly = true) : KeywordsLast false (ps ++ qs) := by
  induction ps with
  | nil => exact keywordsLast_of_forall hq false
  | cons p ps ih =>
    refine ⟨fun h => Bool.noConfusion h, ?_⟩
    rw [hp p List.mem_cons_self]
    exact ih fun r hr => hp r (List.mem_cons_of_mem p hr)

namespace Operator

/-- The parts of a list with a parameter at its head. -/
theorem signatureItems_cons {o : Operator} {byName : Bool} {p : Param} {ps : List Param}
    {parts : List String} (h : o.signatureItems byName (p :: ps) = .ok parts) :
    ∃ part rest, p.shown o = .ok part ∧ o.signatureItems (byName || p.keywordOnly) ps = .ok rest ∧
      parts = if p.keywordOnly && !byName then "*" :: part :: rest else part :: rest := by
  obtain ⟨part, hpart, h⟩ := bind_eq_ok.mp h
  obtain ⟨rest, hrest, h⟩ := bind_eq_ok.mp h
  cases h
  exact ⟨part, rest, hpart, hrest, rfl⟩

/-- Every parameter of a printed list has a part. -/
theorem exists_shown_of_signatureItems {o : Operator} {byName : Bool} {ps : List Param}
    {parts : List String} (h : o.signatureItems byName ps = .ok parts) {p : Param} (hp : p ∈ ps) :
    ∃ part, p.shown o = .ok part := by
  induction ps generalizing byName parts with
  | nil => cases hp
  | cons q ps ih =>
    obtain ⟨part, rest, hpart, hrest, -⟩ := signatureItems_cons h
    rcases List.mem_cons.mp hp with rfl | hp
    · exact ⟨part, hpart⟩
    · exact ih hrest hp

/-- **The parts of a list can be told apart in its text.** -/
theorem isItem_of_mem_signatureItems {o : Operator} {byName : Bool} {ps : List Param}
    {parts : List String} (h : o.signatureItems byName ps = .ok parts)
    (readable : ∀ p ∈ ps, p.IsReadable) :
    ∀ part ∈ parts.map String.toList, IsItem part ∧ part ≠ [] := by
  induction ps generalizing byName parts with
  | nil =>
    cases h
    simp
  | cons p ps ih =>
    obtain ⟨part, rest, hpart, hrest, rfl⟩ := signatureItems_cons h
    have first : IsItem part.toList ∧ part.toList ≠ [] := by
      refine ⟨Param.isItem_of_shown (readable p List.mem_cons_self) hpart, ?_⟩
      obtain ⟨type, -, htext⟩ := Param.shown_eq_ok hpart
      simp [htext]
    have others := ih hrest fun q hq => readable q (List.mem_cons_of_mem p hq)
    have marker : IsItem "*".toList := .of_all (by decide)
    split
    · simp only [List.map_cons, List.forall_mem_cons]
      exact ⟨⟨marker, by decide⟩, first, others⟩
    · simp only [List.map_cons, List.forall_mem_cons]
      exact ⟨first, others⟩

/-- **Equal parts are parts of equal lists**, as far as they are shown. -/
theorem faces_eq_of_signatureItems_eq {o w : Operator} {byName : Bool} {ps qs : List Param}
    {parts : List String} (hp : o.signatureItems byName ps = .ok parts)
    (hq : w.signatureItems byName qs = .ok parts) (readable : ∀ p ∈ ps, p.IsReadable)
    (readable' : ∀ q ∈ qs, q.IsReadable) (last : KeywordsLast byName ps)
    (last' : KeywordsLast byName qs) : ps.map Param.face = qs.map Param.face := by
  induction ps generalizing byName qs parts with
  | nil =>
    cases hp
    cases qs with
    | nil => rfl
    | cons q qs =>
      obtain ⟨part, rest, -, -, hparts⟩ := signatureItems_cons hq
      split at hparts <;> cases hparts
  | cons p ps ih =>
    obtain ⟨part, rest, hpart, hrest, rfl⟩ := signatureItems_cons hp
    cases qs with
    | nil =>
      simp only [signatureItems, Except.ok.injEq] at hq
      split at hq <;> cases hq
    | cons q qs =>
      obtain ⟨part', rest', hpart', hrest', hparts⟩ := signatureItems_cons hq
      -- the marker stands before both heads or before neither
      have marker : p.keywordOnly = q.keywordOnly ∧ part = part' ∧ rest = rest' := by
        cases byName with
        | true =>
          rw [last.1 rfl, last'.1 rfl] at hparts ⊢
          simpa using hparts
        | false =>
          cases hk : p.keywordOnly <;> cases hk' : q.keywordOnly <;>
            simp only [hk, hk', Bool.not_false, Bool.and_true, Bool.and_self, if_true,
              Bool.false_eq_true, if_false, List.cons.injEq] at hparts
          · exact ⟨rfl, hparts⟩
          · exact absurd hparts.1 (Param.ne_marker_of_shown hpart)
          · exact absurd hparts.1.symm (Param.ne_marker_of_shown hpart')
          · exact ⟨rfl, hparts.2⟩
      obtain ⟨hmarker, rfl, rfl⟩ := marker
      have head := Param.face_eq_of_shown_eq (readable p List.mem_cons_self)
        (readable' q List.mem_cons_self) hpart hpart' hmarker
      rw [← hmarker] at hrest'
      have tail := ih hrest hrest' (fun r hr => readable r (List.mem_cons_of_mem p hr))
        (fun r hr => readable' r (List.mem_cons_of_mem q hr)) last.2 (hmarker ▸ last'.2)
      rw [List.map_cons, List.map_cons, head, tail]

/-- Equal lists, as far as they are shown, have equal parts. -/
theorem signatureItems_eq_of_faces_eq {o w : Operator} {byName : Bool} {ps qs : List Param}
    {parts : List String} (same : ps.map Param.face = qs.map Param.face)
    (h : o.signatureItems byName ps = .ok parts) : w.signatureItems byName qs = .ok parts := by
  induction ps generalizing byName qs parts with
  | nil =>
    rw [List.map_nil, eq_comm, List.map_eq_nil_iff] at same
    rw [same]
    exact h
  | cons p ps ih =>
    obtain ⟨q, qs, rfl, head, tail⟩ := List.map_eq_cons_iff.mp same.symm
    obtain ⟨part, rest, hpart, hrest, rfl⟩ := signatureItems_cons h
    have marker : q.keywordOnly = p.keywordOnly := congrArg ShownParam.keywordOnly head
    have item : q.shown w = .ok part := Param.shown_eq_of_face_eq head.symm hpart
    rw [signatureItems, marker, item, ih tail.symm hrest]
    rfl

/-! ## Signatures -/

theorem keywordsLast_orderedParams (o : Operator) (surface : Surface) (outputs : Outputs) :
    KeywordsLast false (o.orderedParams surface outputs) := by
  refine keywordsLast_append ?_ ?_
  · intro p hp
    simpa using (List.mem_filter.mp hp).2
  · intro p hp
    exact (List.mem_filter.mp hp).2

/-- The text of a signature is the base name and the parts, between parentheses. -/
theorem signature_eq_ok {o : Operator} {surface : Surface} {outputs : Outputs} {s : Signature}
    (h : o.signature surface outputs = .ok s) :
    ∃ parts, o.signatureItems false (o.orderedParams surface outputs) = .ok parts ∧
      s.text.toList = o.baseName.toList ++
        '(' :: ([',', ' '].intercalate (parts.map String.toList) ++ [')']) := by
  obtain ⟨parts, hparts, h⟩ := bind_eq_ok.mp h
  cases h
  exact ⟨parts, hparts, by simp [String.toList_intercalate]⟩

/-- What a printed signature shows of an operator from a record is readable. -/
theorem isReadable_of_signature {r : Record} {o : Operator} (built : ofRecord r = .ok o)
    (plain : o.HasPlainAliases) {surface : Surface} {outputs : Outputs} {parts : List String}
    (h : o.signatureItems false (o.orderedParams surface outputs) = .ok parts) :
    ∀ p ∈ o.orderedParams surface outputs, p.IsReadable := by
  intro p hp
  rcases mem_orderedParams hp with hparam | rfl
  · obtain ⟨part, hpart⟩ := exists_shown_of_signatureItems h hp
    obtain ⟨type, htype, -⟩ := Param.shown_eq_ok hpart
    exact isReadable_of_mem_params built hparam (plain p hparam) htype
  · have word : ∀ c ∈ "out".toList, isWordChar c = true :=
      List.all_eq_true.mp (by decide)
    exact ⟨word, by simp [packedParam]⟩

/-- **Equal texts show the same name and the same list.** -/
theorem faces_eq_of_text_eq {r₁ r₂ : Record} {o₁ o₂ : Operator} (built₁ : ofRecord r₁ = .ok o₁)
    (built₂ : ofRecord r₂ = .ok o₂) (plain₁ : o₁.HasPlainAliases) (plain₂ : o₂.HasPlainAliases)
    {surface : Surface} {outputs₁ outputs₂ : Outputs} {s₁ s₂ : Signature}
    (h₁ : o₁.signature surface outputs₁ = .ok s₁) (h₂ : o₂.signature surface outputs₂ = .ok s₂)
    (same : s₁.text = s₂.text) :
    o₁.baseName = o₂.baseName ∧
      (o₁.orderedParams surface outputs₁).map Param.face =
        (o₂.orderedParams surface outputs₂).map Param.face := by
  obtain ⟨parts₁, hparts₁, htext₁⟩ := signature_eq_ok h₁
  obtain ⟨parts₂, hparts₂, htext₂⟩ := signature_eq_ok h₂
  have readable₁ := isReadable_of_signature built₁ plain₁ hparts₁
  have readable₂ := isReadable_of_signature built₂ plain₂ hparts₂
  have noParenthesis : ∀ {r : Record} {o : Operator}, ofRecord r = .ok o →
      '(' ∉ o.baseName.toList := by
    intro r o built hc
    exact absurd (isNameChar_of_mem_baseName built hc) (by decide)
  rw [same, htext₂] at htext₁
  obtain ⟨hname, hlist⟩ := append_mark_inj (noParenthesis built₂) (noParenthesis built₁) htext₁
  have hparts := intercalate_injective
    (isItem_of_mem_signatureItems hparts₂ readable₂)
    (isItem_of_mem_signatureItems hparts₁ readable₁) (List.append_cancel_right hlist)
  obtain rfl : parts₂ = parts₁ := (List.map_inj_right fun _ _ => String.toList_inj.mp).mp hparts
  exact ⟨(String.toList_inj.mp hname).symm,
    faces_eq_of_signatureItems_eq hparts₁ hparts₂ readable₁ readable₂
      (keywordsLast_orderedParams o₁ surface outputs₁)
      (keywordsLast_orderedParams o₂ surface outputs₂)⟩

/-- **Equal lists of one base name have the same signature**, as far as they are shown. -/
theorem signature_eq_of_faces_eq {o w : Operator} {surface : Surface} {outputs outputs' : Outputs}
    {s : Signature} (names : w.baseName = o.baseName)
    (faces : (w.orderedParams surface outputs').map Param.face =
      (o.orderedParams surface outputs).map Param.face)
    (h : o.signature surface outputs = .ok s) : w.signature surface outputs' = .ok s := by
  obtain ⟨parts, hparts, h⟩ := bind_eq_ok.mp h
  cases h
  have length : (w.orderedParams surface outputs').length =
      (o.orderedParams surface outputs).length := by simpa using congrArg List.length faces
  rw [signature, signatureItems_eq_of_faces_eq faces.symm hparts, names, length]
  rfl

end Operator

end OpBindings
