/-
OpBindings.Proofs.Operator — what is known of an operator made from a record.

`ofRecord_eq_ok` says that such an operator is its declaration under the
table's rules. Two things follow that the signature relies on: a base name
holds name characters only, and every parameter `IsReadable`, its name a word
and its default an item, as far as its type is known and its alias
annotation plain.
-/
import OpBindings.Proofs.Declaration.Defaults
import OpBindings.ParamType

namespace OpBindings

open Declaration Nesting

/-! ## Parameter types -/

/-- No spelling of a parameter type holds a quote. -/
theorem ParamType.noQuote_of_ofText? {text : String} {type : ParamType}
    (h : ofText? text = some type) : NoQuote text.toList := by
  unfold ofText? at h
  split at h
  · rename_i fixed hlookup
    obtain ⟨before, after, hsplit, -⟩ := List.lookup_eq_some_iff.mp hlookup
    have mem : (text, fixed) ∈ fixedSpellings := by rw [hsplit]; simp
    have all : ∀ e ∈ fixedSpellings, NoQuote e.1.toList := by decide
    exact all _ mem
  · simp only [ofListText?, Option.bind_eq_bind, Option.bind_eq_some_iff, Prod.exists] at h
    obtain ⟨list, hend, element, size, hcut, h⟩ := h
    split at h
    · cases h
    rename_i hsize
    have digits : NoQuote size := by
      simp only [Bool.not_eq_true', Bool.not_eq_false, List.all_eq_true] at hsize
      exact ⟨fun hc => absurd (hsize _ hc) (by decide), fun hc => absurd (hsize _ hc) (by decide)⟩
    have word : NoQuote element := by
      split at h
      · rename_i he
        rw [he]
        decide
      · split at h
        · rename_i he
          rw [he]
          decide
        · cases h
    unfold Text.cutEnd at hend
    split at hend
    · rename_i hlast
      cases hend
      rw [← List.dropLast_append_getLast? ']' hlast, (Text.cutAt_eq_some_iff.mp hcut).1]
      simp only [noQuote_append, noQuote_cons]
      exact ⟨⟨word, by decide, digits⟩, by decide⟩
    · cases hend

/-! ## Parameters -/

/-- The parameter can be read back from a signature: its name is a word and
its default an item. -/
structure Param.IsReadable (p : Param) : Prop where
  name : ∀ c ∈ p.name.toList, isWordChar c = true
  default : ∀ text ∈ p.default, IsItem text.toList

/-- The alias annotation holds no quote. -/
def Param.HasPlainAlias (p : Param) : Prop := ∀ text ∈ p.aliasing, NoQuote text.toList

theorem Param.isReadable_requiresGradParam : requiresGradParam.IsReadable where
  name := List.all_eq_true.mp (by decide)
  default := by
    intro text h
    obtain rfl : "False" = text := by simpa [requiresGradParam] using h
    exact .of_all (by decide)

/-- The rules for tensor options keep a parameter readable. -/
theorem Param.IsReadable.settle {p : Param} (h : p.IsReadable) (baseName : String) :
    (p.settle baseName).IsReadable where
  name := h.name
  default := by
    intro text ht
    simp only [Param.settle] at ht
    split at ht
    · obtain rfl : "torch.int64" = text := by simpa using ht
      exact .of_all (by decide)
    · exact h.default text ht

/-- The gradient flag that is added: where all other options are declared, and it is not. -/
def gradientFlag (declared : List Param) : List Param :=
  if declared.countP (·.isSuppliedOption) == 4 && !declared.any (·.name == "requires_grad") then
    [requiresGradParam]
  else []

/-- The parameters of an operator are the declared ones, settled, and then perhaps the flag. -/
theorem settleParams_eq (baseName : String) (declared : List Param) :
    settleParams baseName declared =
      declared.map (Param.settle baseName) ++ gradientFlag declared := by
  have options : (declared.map (Param.settle baseName)).countP (·.isSuppliedOption) =
      declared.countP (·.isSuppliedOption) := List.countP_map
  have flagged : (declared.map (Param.settle baseName)).any (·.name == "requires_grad") =
      declared.any (·.name == "requires_grad") := List.any_map
  simp only [settleParams, gradientFlag, options, flagged]
  split <;> simp

theorem eq_requiresGradParam_of_mem_gradientFlag {declared : List Param} {p : Param}
    (h : p ∈ gradientFlag declared) : p = requiresGradParam := by
  unfold gradientFlag at h
  split at h
  · exact List.mem_singleton.mp h
  · cases h

theorem mem_settleParams {baseName : String} {declared : List Param} {p : Param}
    (h : p ∈ settleParams baseName declared) :
    p = requiresGradParam ∨ ∃ q ∈ declared, p = q.settle baseName := by
  rw [settleParams_eq, List.mem_append] at h
  rcases h with h | h
  · obtain ⟨q, hq, rfl⟩ := List.mem_map.mp h
    exact .inr ⟨q, hq, rfl⟩
  · exact .inl (eq_requiresGradParam_of_mem_gradientFlag h)

namespace Operator

/-- No alias annotation of a parameter holds a quote. -/
def HasPlainAliases (o : Operator) : Prop := ∀ p ∈ o.params, p.HasPlainAlias

/-! ## Operators from records -/

/-- **An operator made from a record** is the record's declaration under the table's rules. -/
theorem ofRecord_eq_ok {r : Record} {o : Operator} (h : ofRecord r = .ok o) :
    ∃ text d calls, r.declaration = some text ∧ Declaration.parse text = .ok d ∧
      o = ofDeclaration text d calls r.moduleTag := by
  unfold ofRecord at h
  split at h
  · cases h
  · rename_i text hr
    obtain ⟨d, hd, h⟩ := bind_eq_ok.mp h
    obtain ⟨calls, -, h⟩ := bind_eq_ok.mp h
    split at h
    · cases h
    · cases h
      exact ⟨text, d, calls, hr, mapError_eq_ok.mp hd, rfl⟩

/-- The operator is made from a record with the declaration. -/
structure IsMadeFrom (o : Operator) (r : Record) (d : Declaration) : Prop where
  parsed : ∃ text, r.declaration = some text ∧ Declaration.parse text = .ok d
  built : ofRecord r = .ok o

/-- A declaration that is read from its characters makes its operator. -/
theorem isMadeFrom_ofDeclaration {cs : List Char} {d : Declaration}
    {variants : Option VariantSpec} {calls : CallKinds} (parsed : Declaration.ofChars cs = .ok d)
    (read : readVariants (String.ofList cs) variants = .ok calls) :
    (ofDeclaration (String.ofList cs) d calls none).IsMadeFrom
      { declaration := String.ofList cs, variants } d := by
  rw [← parse_ofList] at parsed
  refine ⟨⟨_, rfl, parsed⟩, ?_⟩
  simp only [ofRecord, parsed, read]
  rfl

namespace IsMadeFrom

variable {o : Operator} {r : Record} {d : Declaration}

theorem eq_ofDeclaration (h : o.IsMadeFrom r d) :
    ∃ text calls, o = ofDeclaration text d calls r.moduleTag := by
  obtain ⟨text, hr, hparse⟩ := h.parsed
  obtain ⟨text', d', calls, hr', hparse', rfl⟩ := ofRecord_eq_ok h.built
  obtain rfl : text = text' := Option.some.inj (hr.symm.trans hr')
  obtain rfl : d = d' := Except.ok.inj (hparse.symm.trans hparse')
  exact ⟨text, calls, rfl⟩

theorem baseName (h : o.IsMadeFrom r d) : o.baseName = baseNameOf d.name := by
  obtain ⟨text, calls, rfl⟩ := h.eq_ofDeclaration
  rfl

theorem results (h : o.IsMadeFrom r d) : o.results = d.results := by
  obtain ⟨text, calls, rfl⟩ := h.eq_ofDeclaration
  rfl

/-- The declared parameters come first, settled; the gradient flag may follow. -/
theorem params (h : o.IsMadeFrom r d) :
    o.params = d.params.map (Param.settle o.baseName) ++ gradientFlag d.params := by
  obtain ⟨text, calls, rfl⟩ := h.eq_ofDeclaration
  exact settleParams_eq _ _

end IsMadeFrom

/-- The name of a parameter is a word. -/
theorem isWordChar_of_mem_name {r : Record} {o : Operator} (h : ofRecord r = .ok o) {p : Param}
    (hp : p ∈ o.params) {c : Char} (hc : c ∈ p.name.toList) : isWordChar c = true := by
  obtain ⟨text, d, calls, -, hparse, rfl⟩ := ofRecord_eq_ok h
  rcases mem_settleParams hp with rfl | ⟨q, hq, rfl⟩
  · exact Param.isReadable_requiresGradParam.name c hc
  · obtain ⟨k, item, -, hread⟩ := exists_item_of_mem_params hparse hq
    obtain ⟨-, -, -, -, -, -, -, -, -, -, hword, -⟩ := readParam_eq_ok hread
    exact hword c hc

/-- A parameter of a known type with a plain alias annotation is readable. -/
theorem isReadable_of_mem_params {r : Record} {o : Operator} (h : ofRecord r = .ok o) {p : Param}
    (hp : p ∈ o.params) (plain : p.HasPlainAlias) {type : ParamType}
    (known : ParamType.ofText? p.type = some type) : p.IsReadable := by
  obtain ⟨text, d, calls, -, hparse, rfl⟩ := ofRecord_eq_ok h
  rcases mem_settleParams hp with rfl | ⟨q, hq, rfl⟩
  · exact Param.isReadable_requiresGradParam
  · obtain ⟨k, item, hitem, hread⟩ := exists_item_of_mem_params hparse hq
    have word : ∀ c ∈ q.name.toList, isWordChar c = true := fun c => isWordChar_of_mem_name h hp
    refine Param.IsReadable.settle ⟨word, ?_⟩ _
    intro text ht
    exact isItem_default_of_readParam hread hitem (ParamType.noQuote_of_ofText? known) plain ht

/-- A base name is made of name characters. -/
theorem isNameChar_of_mem_baseName {r : Record} {o : Operator} (h : ofRecord r = .ok o) {c : Char}
    (hc : c ∈ o.baseName.toList) : isNameChar c = true := by
  obtain ⟨text, d, calls, -, hparse, rfl⟩ := ofRecord_eq_ok h
  have mem : c ∈ d.name.toList := by
    simp only [baseName, baseNameOf, baseCharsOf, String.toList_ofList] at hc
    exact (List.takeWhile_sublist _).mem hc
  obtain ⟨line, hline, hparse⟩ := bind_eq_ok.mp hparse
  obtain ⟨params, -, hparse⟩ := bind_eq_ok.mp hparse
  obtain ⟨items, -, hparse⟩ := bind_eq_ok.mp hparse
  obtain ⟨results, -, hparse⟩ := bind_eq_ok.mp hparse
  cases hparse
  obtain ⟨⟨name, rest⟩, hname, hline⟩ := bind_eq_ok.mp hline
  have all : ∀ c ∈ name, isNameChar c = true := by
    unfold cutName at hname
    dsimp only at hname
    split at hname
    · cases hname
    · split at hname
      · cases hname
        intro c hc
        exact List.mem_takeWhile_imp hc
      · cases hname
  obtain ⟨⟨group, rest'⟩, -, hline⟩ := bind_eq_ok.mp hline
  dsimp only at hline
  split at hline
  · split at hline
    · cases hline
    · cases hline
      exact all c (by simpa using mem)
  · cases hline

end Operator

end OpBindings
