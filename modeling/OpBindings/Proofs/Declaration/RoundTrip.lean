/-
OpBindings.Proofs.Declaration.RoundTrip — a declaration that is written is read back.

The main statement is `parse_print`: whatever can be written is read back from
every way of writing it. Each item is read back by itself (`readParam_printParam`,
`readResult_printResult`), a list of them because it is cut where the commas
were put (`splitCommas_printItems`), and the line because the name and the
parameter group end where they did when it was written (`outline_printChars`).
-/
import OpBindings.Proofs.Declaration.TypeText
import OpBindings.Proofs.Outcome

namespace OpBindings.Declaration

open Nesting Text

/-! ## Items -/

/-- A type part at the head of an item is passed over. -/
theorem cutType_append {depth : Nat} {xs : List Char} (h : hidesBlanks depth xs) (ys : List Char) :
    cutType depth (xs ++ ys) =
      (cutType (xs.foldl bracketDepth depth) ys).map fun (type, rest) => (xs ++ type, rest) := by
  induction xs generalizing depth with
  | nil => simp
  | cons c xs ih =>
    obtain ⟨hc, hxs⟩ := h
    have go : (isBlank c && depth == 0) = false := by
      rw [Bool.eq_false_iff]
      simpa using hc
    simp only [List.cons_append, cutType, go, Bool.false_eq_true, if_false, ih hxs, List.foldl_cons,
      Option.map_map]
    rfl

/-- **A type ends at the gap after it.** -/
theorem cutType_of_gap {type rest : List Char} (h : IsTypePart type) (gap : Gap)
    (hrest : StartsPlain rest) :
    cutType 0 (type ++ (gap.chars ++ rest)) = some (type, trim rest) := by
  obtain ⟨c, blanks, split⟩ := List.exists_cons_of_ne_nil gap.nonempty
  have blank := gap.blank
  rw [split] at blank
  have head : isBlank c = true := blank c List.mem_cons_self
  have tail : trim (blanks ++ rest) = trim rest :=
    trim_append_left (fun d hd => blank d (List.mem_cons_of_mem c hd)) rest
  have found : (trim rest).isEmpty = false := by
    rw [List.isEmpty_eq_false_iff]
    exact hrest.trim.ne_nil
  rw [cutType_append h.noBlank, h.balanced, split, List.cons_append, cutType]
  simp [head, tail, found]

/-- A type with nothing after it has no end. -/
theorem cutType_alone {type : List Char} (h : IsTypePart type) : cutType 0 type = none := by
  have alone := cutType_append h.noBlank []
  rwa [List.append_nil, h.balanced] at alone

/-- **A name and a default are cut at the sign between them.** -/
theorem cutDefault_print {name : List Char} (hn : IsWord name) (sign : Margin)
    {default : Option String} (hd : ∀ text ∈ default, IsDefault text.toList) :
    cutDefault (trim (name ++ printDefault sign default)) = (name, default) := by
  have startsName := hn.startsPlain
  unfold cutDefault
  cases default with
  | none =>
    rw [printDefault, List.append_nil, trim_of_plain_ends startsName hn.endsPlain,
      cutAt_eq_none_iff.mpr (hn.not_mem (by decide))]
  | some text =>
    have written : name ++ printDefault sign (some text) =
        (name ++ sign.before.chars) ++ ('=' :: (sign.after.chars ++ text.toList)) := by
      simp [printDefault, Margin.put]
    have noSign : '=' ∉ name ++ sign.before.chars := by
      rw [List.mem_append, not_or]
      exact ⟨hn.not_mem (by decide), fun mem => absurd (sign.before.blank _ mem) (by decide)⟩
    have cut : cutAt '=' (trim (name ++ printDefault sign (some text))) =
        some (name ++ sign.before.chars, dropTrailingBlanks (sign.after.chars ++ text.toList)) := by
      rw [written, trim_append (startsName.append _) ⟨'=', _, rfl, by decide⟩, trim_cons (by decide),
        ← List.nil_append ('=' :: _), dropTrailingBlanks_append_cons (by decide), List.nil_append]
      exact cutAt_eq_some_iff.mpr ⟨rfl, noSign⟩
    rw [cut]
    simp only
    rw [trim_append_right name sign.before.blank, trim_of_plain_ends startsName hn.endsPlain,
      trim_dropTrailingBlanks, trim_append_left sign.after.blank, (hd text rfl).trimmed,
      String.ofList_toList]

/-- **A parameter that is written is read back.** -/
theorem readParam_printParam {p : Param} (h : IsPrintableParam p) (l : ParamLayout) :
    readParam p.keywordOnly (trim (printParam l p)) = .ok p := by
  obtain ⟨inside, ht, hsize⟩ := h.type
  have type : IsTypePart (printType p.type.toList p.aliasing p.optional l.place) :=
    isTypePart_printType ht h.aliasing
  have startsType : StartsPlain (printType p.type.toList p.aliasing p.optional l.place) :=
    startsPlain_printType ht
  have startsName := h.name.startsPlain.append (printDefault l.sign p.default)
  have cut : cutType 0 (trim (printParam l p)) =
      some (printType p.type.toList p.aliasing p.optional l.place,
        trim (p.name.toList ++ printDefault l.sign p.default)) := by
    rw [printParam, ← List.append_assoc, trim_append (startsType.append _) startsName,
      List.append_assoc, cutType_of_gap type l.gap startsName.trim, startsName.trim_trim]
  have size := listSize_eq ht (hsize ▸ h.size)
  have named : (p.name.toList.isEmpty || !p.name.toList.all isWordChar) = false := by
    simp [h.name.all, h.name.nonempty]
  unfold readParam
  rw [cut]
  simp only [cutDefault_print h.name l.sign h.default, named, contains_printType ht h.aliasing,
    filter_printType ht h.aliasing, cutAliasing_eq ht h.aliasing, Bool.false_eq_true, if_false]
  simp only [bind, Except.bind, size, String.ofList_toList, ← hsize]

/-- A written parameter begins with a letter, so it is neither empty nor the `*`. -/
theorem exists_cons_printParam {p : Param} (h : IsPrintableParam p) (l : ParamLayout) :
    ∃ c rest, trim (printParam l p) = c :: rest ∧ isWordChar c = true := by
  obtain ⟨inside, ht, -⟩ := h.type
  obtain ⟨c, rest, split, letter⟩ : ∃ c rest, printType p.type.toList p.aliasing p.optional
      l.place = c :: rest ∧ isWordChar c = true := exists_cons_printType ht
  have plain := isBlank_of_isWordChar letter
  rw [printParam, split, List.cons_append, trim_cons plain, ← List.nil_append (c :: _),
    dropTrailingBlanks_append_cons plain, List.nil_append]
  exact ⟨c, _, rfl, letter⟩

theorem trim_put (m : Margin) (text : List Char) : trim (m.put text) = trim text :=
  trim_around m.before.blank text m.after.blank

/-- **A list of parameters that is written is read back**, with the `*` where
the parameters begin that are passed by name. -/
theorem readParams_printParams (l : Layout) {ps : List Param} (index : Nat) {byName : Bool}
    (printable : ∀ p ∈ ps, IsPrintableParam p)
    (last : ps.Pairwise fun p q => p.keywordOnly = true → q.keywordOnly = true)
    (all : byName = true → ∀ p ∈ ps, p.keywordOnly = true) :
    readParams byName ((printParams l index byName ps).map trim) = .ok ps := by
  induction ps generalizing index byName with
  | nil => rfl
  | cons p ps ih =>
    obtain ⟨after, last⟩ := List.pairwise_cons.mp last
    have head := printable p List.mem_cons_self
    have tail : ∀ q ∈ ps, IsPrintableParam q := fun q hq => printable q (List.mem_cons_of_mem p hq)
    obtain ⟨c, rest, text, letter⟩ := exists_cons_printParam head (l.params index)
    have one : readParams p.keywordOnly
        (trim (printParam (l.params index) p) ::
          (printParams l (index + 1) p.keywordOnly ps).map trim) = .ok (p :: ps) := by
      have noMarker : trim (printParam (l.params index) p) ≠ ['*'] := by
        rw [text]
        intro same
        exact ne_of_isWordChar letter (by decide) (List.cons.inj same).1
      have someText : (trim (printParam (l.params index) p)).isEmpty = false := by rw [text]; rfl
      have others := ih (index + 1) tail last fun passed q hq => after q hq passed
      simp only [readParams, noMarker, someText, if_false, Bool.false_eq_true,
        readParam_printParam head, others]
      rfl
    cases hp : p.keywordOnly with
    | false =>
      have positional : byName = false := by
        rw [Bool.eq_false_iff]
        intro passed
        rw [all passed p List.mem_cons_self] at hp
        cases hp
      rw [hp] at one
      simpa [printParams, positional, hp, trim_put] using one
    | true =>
      rw [hp] at one
      cases byName with
      | true => simpa [printParams, hp, trim_put] using one
      | false =>
        have marker : trim (l.marker.put ['*']) = ['*'] := trim_put l.marker ['*']
        simpa [printParams, hp, trim_put, readParams, marker] using one

/-- **A result that is written is read back**, with its name or without one. -/
theorem readResult_printResult {r : Result} (h : IsPrintableResult r) (l : ResultLayout) :
    readResult (printResult l r) = .ok r := by
  obtain ⟨inside, ht⟩ := h.type
  have type : IsTypePart (printType r.type.toList r.aliasing false .afterWord) :=
    isTypePart_printType ht h.aliasing
  have starts : StartsPlain (printType r.type.toList r.aliasing false .afterWord) :=
    startsPlain_printType ht
  have aliased : cutAliasing (printType r.type.toList r.aliasing false .afterWord) =
      .ok (r.type.toList, r.aliasing) := by
    have noMark : (printType r.type.toList r.aliasing false .afterWord).contains '?' = false :=
      contains_printType ht h.aliasing
    have same : ∀ c ∈ printType r.type.toList r.aliasing false .afterWord, (c != '?') = true := by
      intro c hc
      rw [bne_iff_ne]
      rintro rfl
      rw [List.contains_eq_mem, decide_eq_false_iff_not] at noMark
      exact noMark hc
    rw [← List.filter_eq_self.mpr same, filter_printType ht h.aliasing,
      cutAliasing_eq ht h.aliasing]
  have someText : (printResult l r).isEmpty = false := by
    rw [List.isEmpty_eq_false_iff]
    exact (starts.append _).ne_nil
  unfold readResult
  rw [someText]
  cases hname : r.name with
  | none =>
    have alone : printResult l r = printType r.type.toList r.aliasing false .afterWord := by
      rw [printResult, hname, printName, List.append_nil]
    simp only [alone, cutType_alone type, bind, Except.bind, aliased, Bool.false_eq_true,
      if_false, String.ofList_toList, ← hname]
  | some name =>
    have word := h.name name hname
    have cut : cutType 0 (printResult l r) =
        some (printType r.type.toList r.aliasing false .afterWord, name.toList) := by
      rw [printResult, hname, printName, cutType_of_gap type l.gap word.startsPlain,
        trim_of_plain_ends word.startsPlain word.endsPlain]
    simp only [cut, word.all, bind, Except.bind, aliased, Bool.false_eq_true, if_false, if_true,
      String.ofList_toList, ← hname]

theorem endsPlain_printResult {r : Result} (h : IsPrintableResult r) (l : ResultLayout) :
    EndsPlain (printResult l r) := by
  obtain ⟨inside, ht⟩ := h.type
  unfold printResult
  cases hname : r.name with
  | none =>
    rw [printName, List.append_nil]
    exact endsPlain_printType ht
  | some name => exact ((h.name name hname).endsPlain.append _).append _

/-- A written result begins with a letter. -/
theorem exists_cons_printResult {r : Result} (h : IsPrintableResult r) (l : ResultLayout) :
    ∃ c rest, printResult l r = c :: rest ∧ isWordChar c = true := by
  obtain ⟨inside, ht⟩ := h.type
  obtain ⟨c, rest, split, letter⟩ : ∃ c rest, printType r.type.toList r.aliasing false
      .afterWord = c :: rest ∧ isWordChar c = true := exists_cons_printType ht
  exact ⟨c, rest ++ printName l.gap r.name, by rw [printResult, split, List.cons_append], letter⟩

theorem startsPlain_printResult {r : Result} (h : IsPrintableResult r) (l : ResultLayout) :
    StartsPlain (printResult l r) := by
  obtain ⟨c, rest, split, letter⟩ := exists_cons_printResult h l
  exact ⟨c, rest, split, isBlank_of_isWordChar letter⟩

theorem trim_printResult {r : Result} (h : IsPrintableResult r) (l : ResultLayout) :
    trim (printResult l r) = printResult l r :=
  trim_of_plain_ends (startsPlain_printResult h l) (endsPlain_printResult h l)

/-- **A list of results that is written is read back.** -/
theorem mapM_readResult_printResults (l : Layout) {rs : List Result} (index : Nat)
    (printable : ∀ r ∈ rs, IsPrintableResult r) :
    ((printResults l index rs).map trim).mapM readResult = .ok rs := by
  induction rs generalizing index with
  | nil => rfl
  | cons r rs ih =>
    have head := printable r List.mem_cons_self
    have others := ih (index + 1) fun q hq => printable q (List.mem_cons_of_mem r hq)
    rw [printResults, List.map_cons, List.mapM_cons, others, trim_put, trim_printResult head,
      readResult_printResult head]
    rfl

/-! ## Lists -/

theorem IsEnclosed.put {text : List Char} (h : IsEnclosed text) (m : Margin) :
    IsEnclosed (m.put text) :=
  (IsEnclosed.of_blank m.before.blank).append (h.append (.of_blank m.after.blank))

theorem isEnclosed_printParam {p : Param} (h : IsPrintableParam p) (l : ParamLayout) :
    IsEnclosed (printParam l p) := by
  obtain ⟨inside, ht, -⟩ := h.type
  have default : IsEnclosed (printDefault l.sign p.default) := by
    cases hd : p.default with
    | none => exact .nil
    | some text =>
      have sign : IsEnclosed ['='] := .of_no_mark (by decide) (by decide)
      exact (sign.put l.sign).append (h.default text hd).toIsEnclosed
  exact (isTypePart_printType ht h.aliasing).toIsEnclosed.append
    ((IsEnclosed.of_blank l.gap.blank).append ((IsEnclosed.of_word h.name).append default))

theorem isEnclosed_printResult {r : Result} (h : IsPrintableResult r) (l : ResultLayout) :
    IsEnclosed (printResult l r) := by
  obtain ⟨inside, ht⟩ := h.type
  have name : IsEnclosed (printName l.gap r.name) := by
    cases hname : r.name with
    | none => exact .nil
    | some name =>
      exact (IsEnclosed.of_blank l.gap.blank).append (.of_word (h.name name hname))
  exact (isTypePart_printType ht h.aliasing).toIsEnclosed.append name

/-- The text of an item of a list: it is enclosed and not blank. -/
structure IsListed (item : List Char) : Prop extends IsEnclosed item where
  someText : trim item ≠ []

theorem isListed_printParams (l : Layout) {ps : List Param} (index : Nat) (byName : Bool)
    (printable : ∀ p ∈ ps, IsPrintableParam p) :
    ∀ item ∈ printParams l index byName ps, IsListed item := by
  induction ps generalizing index byName with
  | nil => simp [printParams]
  | cons p ps ih =>
    have head := printable p List.mem_cons_self
    have one : IsListed ((l.params index).around.put (printParam (l.params index) p)) := by
      obtain ⟨c, rest, text, -⟩ := exists_cons_printParam head (l.params index)
      refine ⟨(isEnclosed_printParam head _).put _, ?_⟩
      rw [trim_put, text]
      exact List.cons_ne_nil c rest
    have marker : IsListed (l.marker.put ['*']) := by
      have star : IsEnclosed ['*'] := .of_no_mark (by decide) (by decide)
      refine ⟨star.put l.marker, ?_⟩
      rw [trim_put]
      decide
    have others := ih (index + 1) (byName || p.keywordOnly)
      fun q hq => printable q (List.mem_cons_of_mem p hq)
    rw [printParams]
    split
    · exact List.forall_mem_cons.mpr ⟨marker, List.forall_mem_cons.mpr ⟨one, others⟩⟩
    · exact List.forall_mem_cons.mpr ⟨one, others⟩

theorem isListed_printResults (l : Layout) {rs : List Result} (index : Nat)
    (printable : ∀ r ∈ rs, IsPrintableResult r) :
    ∀ item ∈ printResults l index rs, IsListed item := by
  induction rs generalizing index with
  | nil => simp [printResults]
  | cons r rs ih =>
    have head := printable r List.mem_cons_self
    have one : IsListed ((l.results index).around.put (printResult (l.results index) r)) := by
      refine ⟨(isEnclosed_printResult head _).put _, ?_⟩
      rw [trim_put, trim_printResult head]
      exact (startsPlain_printResult head _).ne_nil
    exact List.forall_mem_cons.mpr
      ⟨one, ih (index + 1) fun q hq => printable q (List.mem_cons_of_mem r hq)⟩

section Items

variable {empty : Blanks} {items : List (List Char)}

/-- **Items are cut at the commas that were put between them.** -/
theorem splitCommas_printItems (h : ∀ item ∈ items, IsListed item) :
    splitCommas (printItems empty items) = items.map trim := by
  unfold splitCommas
  cases items with
  | nil =>
    have blank := IsEnclosed.of_blank empty.blank
    rw [printItems, pieces_of_hides blank.hidesCommas, List.map_singleton, trim_of_blank empty.blank]
    rfl
  | cons item items =>
    have head := h item List.mem_cons_self
    have noBlank : ∀ c ∈ ([] : List Char), isBlank c = true := by simp
    have pieces := pieces_intercalate noBlank head.toIsItem
      fun i hi => (h i (List.mem_cons_of_mem item hi)).toIsItem
    simp only [List.nil_append, List.map_id'] at pieces
    rw [printItems, pieces, List.map_cons]
    · split
      · rename_i same
        exact absurd (List.cons.inj same).1 head.someText
      · rfl
    · simp

/-- A list closes what its items open, and no parenthesis besides. -/
theorem closes_printItems (h : ∀ item ∈ items, IsListed item) :
    outside.after (printItems empty items) = outside ∧
      outside.hides ')' (printItems empty items) := by
  have comma : outside.after [','] = outside ∧ outside.hides ')' [','] := by
    refine ⟨rfl, hides_of_not_mem (by decide)⟩
  cases items with
  | nil =>
    have blank := IsEnclosed.of_blank empty.blank
    exact ⟨blank.closes, blank.closesNoOther⟩
  | cons item items =>
    rw [printItems]
    · induction items generalizing item with
      | nil =>
        have head := h item List.mem_cons_self
        rw [List.intercalate_singleton]
        exact ⟨head.closes, head.closesNoOther⟩
      | cons next items ih =>
        have head := h item List.mem_cons_self
        obtain ⟨closes, hides⟩ := ih next (fun i hi => h i (List.mem_cons_of_mem item hi))
        rw [List.intercalate_cons_cons]
        simp only [after_append, hides_append, head.closes, comma.1, closes]
        exact ⟨trivial, ⟨head.closesNoOther, comma.2⟩, hides⟩
    · simp

end Items

/-! ## The line -/

/-- **The results that follow the arrow are read back**, in parentheses or without. -/
theorem resultItems_printResultText (l : Layout) {rs : List Result}
    (printable : ∀ r ∈ rs, IsPrintableResult r) :
    ∃ items, resultItems (printResultText l rs) = .ok items ∧ items.mapM readResult = .ok rs := by
  have wrapped : resultItems ('(' :: (printItems l.noResults (printResults l 0 rs) ++ [')'])) =
      .ok ((printResults l 0 rs).map trim) := by
    have closing : cutEnd ')' (printItems l.noResults (printResults l 0 rs) ++ [')']) =
        some (printItems l.noResults (printResults l 0 rs)) := by simp [cutEnd]
    simp only [resultItems, closing, splitCommas_printItems (isListed_printResults l 0 printable)]
  have inParentheses := mapM_readResult_printResults l 0 printable
  unfold printResultText
  split
  · rename_i r
    have one := printable r List.mem_cons_self
    split
    · exact ⟨_, wrapped, inParentheses⟩
    · refine ⟨[printResult (l.results 0) r], ?_, ?_⟩
      · obtain ⟨c, rest, text, letter⟩ := exists_cons_printResult one (l.results 0)
        rw [text, resultItems]
        rintro rest' same
        exact ne_of_isWordChar letter (by decide) (List.cons.inj same).1
      · rw [List.mapM_cons, readResult_printResult one]
        rfl
  · exact ⟨_, wrapped, inParentheses⟩

/-- The results begin and end with no blank. -/
theorem trim_printResultText (l : Layout) {rs : List Result}
    (printable : ∀ r ∈ rs, IsPrintableResult r) :
    StartsPlain (printResultText l rs) ∧ trim (printResultText l rs) = printResultText l rs := by
  have wrapped (inner : List Char) :
      StartsPlain ('(' :: (inner ++ [')'])) ∧ EndsPlain ('(' :: (inner ++ [')'])) :=
    ⟨⟨'(', _, rfl, by decide⟩, ⟨'(' :: inner, ')', rfl, by decide⟩⟩
  have ends : StartsPlain (printResultText l rs) ∧ EndsPlain (printResultText l rs) := by
    unfold printResultText
    split
    · rename_i r
      have one := printable r List.mem_cons_self
      split
      · exact wrapped _
      · exact ⟨startsPlain_printResult one _, endsPlain_printResult one _⟩
    · exact wrapped _
  exact ⟨ends.1, trim_of_plain_ends ends.1 ends.2⟩

/-- A name is a word, or two with the dot of the overload between them. -/
theorem isOverloadName_of_isOperatorName {name : List Char} (h : IsOperatorName name) :
    isOverloadName name = true := by
  have noDot : ∀ {word : List Char}, IsWord word → '.' ∉ word := fun hword =>
    hword.not_mem (by decide)
  have ends : ∀ {word : List Char}, IsWord word →
      word.head? ≠ some '.' ∧ word.getLast? ≠ some '.' := fun hword =>
    ⟨fun same => noDot hword (List.mem_of_head? same),
      fun same => noDot hword (List.mem_of_getLast? same)⟩
  obtain ⟨base, hbase, rfl | ⟨overload, hoverload, rfl⟩⟩ := h
  · have count := List.count_eq_zero.mpr (noDot hbase)
    simp [isOverloadName, ends hbase, count]
  · have count := List.count_eq_zero.mpr (noDot hbase)
    have count' := List.count_eq_zero.mpr (noDot hoverload)
    have head : (base ++ '.' :: overload).head? = base.head? :=
      List.head?_append_of_ne_nil base hbase.nonempty
    have last : (base ++ '.' :: overload).getLast? = overload.getLast? := by
      rw [List.getLast?_append_of_ne_nil base (List.cons_ne_nil '.' overload),
        List.getLast?_cons_of_ne_nil hoverload.nonempty]
    simp [isOverloadName, head, last, ends hbase, ends hoverload, count, count']

/-- **The name at the head of the line is found.** -/
theorem cutName_append {name : List Char} (h : IsOperatorName name) (rest : List Char) :
    StartsPlain name ∧ cutName (name ++ '(' :: rest) = .ok (name, '(' :: rest) := by
  have isName : ∀ {word : List Char}, IsWord word → ∀ c ∈ word, isNameChar c = true := by
    intro word hword c hc
    have letter := hword.plain c hc
    rw [isNameChar, Bool.or_eq_true]
    exact .inl letter
  have shape := isOverloadName_of_isOperatorName h
  obtain ⟨all, starts⟩ : (∀ c ∈ name, isNameChar c = true) ∧ StartsPlain name := by
    obtain ⟨base, hbase, rfl | ⟨overload, hoverload, rfl⟩⟩ := h
    · exact ⟨isName hbase, hbase.startsPlain⟩
    · refine ⟨List.forall_mem_append.mpr ⟨isName hbase, ?_⟩, hbase.startsPlain.append _⟩
      exact List.forall_mem_cons.mpr ⟨by decide, isName hoverload⟩
  refine ⟨starts, ?_⟩
  have taken : (name ++ '(' :: rest).takeWhile isNameChar = name := by
    rw [List.takeWhile_append_of_pos all, List.takeWhile_cons_of_neg (by decide), List.append_nil]
  have left : (name ++ '(' :: rest).dropWhile isNameChar = '(' :: rest := by
    rw [List.dropWhile_append_of_pos all, List.dropWhile_cons_of_neg (by decide)]
  have someText : name.isEmpty = false := List.isEmpty_eq_false_iff.mpr starts.ne_nil
  simp only [cutName, taken, left, someText, shape, Bool.false_eq_true, if_false, if_true]

/-- **The outer shape of a written line is found.** -/
theorem outline_printChars {d : Declaration} (h : IsPrintable d) (l : Layout) :
    outline (printChars l d) = .ok {
      name := d.name.toList
      params := printItems l.noParams (printParams l 0 false d.params)
      results := printResultText l d.results } := by
  obtain ⟨tail, htail⟩ : ∃ tail, tail = l.arrow.before.chars ++ '-' :: '>' ::
      (l.arrow.after.chars ++ (printResultText l d.results ++ l.around.after.chars)) := ⟨_, rfl⟩
  have line : printChars l d = l.around.before.chars ++ (d.name.toList ++ '(' ::
      (printItems l.noParams (printParams l 0 false d.params) ++ ')' :: tail)) := by
    simp [htail, printChars, Margin.put]
  obtain ⟨starts, name⟩ := cutName_append h.name
    (printItems l.noParams (printParams l 0 false d.params) ++ ')' :: tail)
  have start : dropBlanks (printChars l d) = d.name.toList ++ '(' ::
      (printItems l.noParams (printParams l 0 false d.params) ++ ')' :: tail) := by
    obtain ⟨c, letters, split, plain⟩ := starts
    rw [line, dropBlanks_append l.around.before.blank, split, List.cons_append,
      dropBlanks_cons plain]
  obtain ⟨closes, hides⟩ :
      outside.after (printItems l.noParams (printParams l 0 false d.params)) = outside ∧
        outside.hides ')' (printItems l.noParams (printParams l 0 false d.params)) :=
    closes_printItems (isListed_printParams l 0 false h.params)
  have group : outside.group (printItems l.noParams (printParams l 0 false d.params) ++
      ')' :: tail) = some (printItems l.noParams (printParams l 0 false d.params), tail) :=
    group_eq_some_iff.mpr ⟨rfl, hides, closes⟩
  have arrow : dropBlanks tail = '-' :: '>' ::
      (l.arrow.after.chars ++ (printResultText l d.results ++ l.around.after.chars)) := by
    rw [htail, dropBlanks_append l.arrow.before.blank, dropBlanks_cons (by decide)]
  obtain ⟨startsResults, trimmed⟩ := trim_printResultText l h.results
  have results : trim (l.arrow.after.chars ++ (printResultText l d.results ++
      l.around.after.chars)) = printResultText l d.results := by
    rw [trim_around l.arrow.after.blank _ l.around.after.blank, trimmed]
  have someResult : (printResultText l d.results).isEmpty = false :=
    List.isEmpty_eq_false_iff.mpr startsResults.ne_nil
  simp only [outline, start, name, cutGroup, group, arrow, results, someResult, bind, Except.bind,
    Bool.false_eq_true, if_false]

/-- **A declaration that is written is read back.** -/
theorem parse_print {d : Declaration} (h : d.IsPrintable) (l : Layout) :
    parse (print l d) = .ok d := by
  obtain ⟨items, hitems, hresults⟩ := resultItems_printResultText l h.results
  have params : readParams false (splitCommas (printItems l.noParams
      (printParams l 0 false d.params))) = .ok d.params := by
    rw [splitCommas_printItems (isListed_printParams l 0 false h.params)]
    exact readParams_printParams l 0 h.params h.keywordsLast (by simp)
  rw [parse, print, String.toList_ofList, ofChars, outline_printChars h l]
  simp only [bind, Except.bind, params, hitems, hresults, String.ofList_toList]

/-! ### A line in which everything nests -/

/-- Quotes, brackets and commas wherever they may stand. -/
def pad : Declaration where
  name := "pad_all.out"
  params := [
    { name := "self", type := "Tensor", optional := true, default := none,
      aliasing := some "a! -> a|b, c", keywordOnly := false, listSize := none },
    { name := "mode", type := "str", optional := false, default := some "'edge, (' \"]\"",
      aliasing := none, keywordOnly := false, listSize := none },
    { name := "size", type := "int[02]", optional := true, default := some "[max(0, 1), ')']",
      aliasing := none, keywordOnly := true, listSize := some 2 }]
  results := [
    { name := some "out", type := "Tensor", aliasing := some "a!" },
    { name := none, type := "int[3]", aliasing := none }]

/-- Blanks of several kinds around the separators, and the `?` at two of its places. -/
def spread : Layout where
  around := ⟨⟨['\t'], by decide⟩, ⟨[' '], by decide⟩⟩
  arrow := ⟨⟨[], by decide⟩, ⟨[' ', ' '], by decide⟩⟩
  params index := {
    around := ⟨⟨[], by decide⟩, ⟨['\n'], by decide⟩⟩
    place := if index = 0 then .beforeBrackets else .afterBrackets
    gap := ⟨⟨[' ', '\t'], by decide⟩, by decide⟩
    sign := ⟨⟨[' '], by decide⟩, ⟨[], by decide⟩⟩ }
  marker := ⟨⟨[' '], by decide⟩, ⟨[], by decide⟩⟩
  noParams := ⟨[], by decide⟩
  results _ := {
    around := ⟨⟨[' '], by decide⟩, ⟨[], by decide⟩⟩
    gap := ⟨⟨[' '], by decide⟩, by decide⟩ }
  noResults := ⟨[], by decide⟩
  wrapsResult := false

example : print spread pad = "\tpad_all.out(Tensor(a! -> a|b, c)? \tself\n," ++
    "str \tmode ='edge, (' \"]\"\n, *,int[02]? \tsize =[max(0, 1), ')']\n)->  " ++
    "( Tensor(a!) out, int[3]) " := by
  decide +kernel

theorem isPrintable_pad : pad.IsPrintable where
  name := ⟨"pad_all".toList, by decide, .inr ⟨"out".toList, by decide, rfl⟩⟩
  params := by
    have word {cs : List Char} (h : IsWord cs) : IsTypeText cs none :=
      ⟨⟨cs, h, (List.append_nil cs).symm⟩, by simp⟩
    have list : IsTypeText "int[02]".toList (some ['0', '2']) :=
      ⟨⟨"int".toList, by decide, rfl⟩, by simp⟩
    intro p mem
    simp only [pad, List.mem_cons, List.not_mem_nil, or_false] at mem
    obtain rfl | rfl | rfl := mem
    · exact ⟨by decide, ⟨none, word (by decide), rfl⟩, by simp, by simp [IsAliasText, isMark],
        by simp⟩
    · refine ⟨by decide, ⟨none, word (by decide), rfl⟩, by simp, by simp [IsAliasText], ?_⟩
      rintro text ⟨⟩
      decide
    · refine ⟨by decide, ⟨_, list, rfl⟩, by simp [sizeLimit], by simp [IsAliasText], ?_⟩
      rintro text ⟨⟩
      decide
  keywordsLast := by decide
  results := by
    intro r mem
    simp only [pad, List.mem_cons, List.not_mem_nil, or_false] at mem
    obtain rfl | rfl := mem
    · refine ⟨?_, ⟨none, ⟨⟨"Tensor".toList, by decide, rfl⟩, by simp⟩⟩,
        by simp [IsAliasText, isMark]⟩
      rintro name ⟨⟩
      decide
    · exact ⟨by simp, ⟨some ['3'], ⟨⟨"int".toList, by decide, rfl⟩, by simp⟩⟩,
        by simp [IsAliasText]⟩

theorem parse_print_pad : pad.IsPrintable ∧ parse (print spread pad) = .ok pad :=
  ⟨isPrintable_pad, parse_print isPrintable_pad spread⟩

end OpBindings.Declaration
