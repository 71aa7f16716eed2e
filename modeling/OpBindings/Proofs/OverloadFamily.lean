/-
OpBindings.Proofs.OverloadFamily — what a family of overloads is made of.

Families grow by one operator at a time. `Opens` and `Grows` say all that such
a step can do, so the code of gathering is opened once, and what holds of the
families is proved by cases on the step.

`IsOf surface os` is the invariant: the members of the family are operators of
`os`, their signatures without outputs have the family's key for a text, and
the signature of the family is the writer's own where there is a writer. One
operator more keeps it (`Grows.isOf`, `isOf_insert`), so every family that is
handed on has it (`isOf_of_ofOperators`).

Keys are never changed and never repeated, so each operator belongs to
exactly one family, as a member or as one that was ignored
(`existsUnique_takes`).
-/
import Mathlib.Data.List.Nodup
import OpBindings.OverloadFamily
import OpBindings.Proofs.Signature

namespace OpBindings

/-- The signature of `o` without outputs has the text `key`. -/
def Operator.HasKey (o : Operator) (surface : Surface) (key : String) : Prop :=
  ∃ s, o.signature surface .elided = .ok s ∧ s.text = key

theorem Operator.HasKey.unique {o : Operator} {surface : Surface} {a b : String}
    (ha : o.HasKey surface a) (hb : o.HasKey surface b) : a = b := by
  obtain ⟨s, hs, rfl⟩ := ha
  obtain ⟨t, ht, rfl⟩ := hb
  rw [hs] at ht
  cases ht
  rfl

namespace OverloadFamily

variable {surface : Surface} {os : List Operator} {f f' : OverloadFamily} {o : Operator}
  {key : Signature}

/-! ## One operator more -/

/-- What one operator more of its key does to a family: it joins an operator of
the other kind, or is ignored because its kind has come before. -/
inductive Grows (surface : Surface) (o : Operator) : OverloadFamily → OverloadFamily → Prop
  | plainIgnored {f : OverloadFamily} (kind : o.hasOutputs = false)
      (earlier : f.plain?.isSome = true) : Grows surface o f f
  | writerIgnored {f : OverloadFamily} (kind : o.hasOutputs = true)
      (earlier : f.writer?.isSome = true) : Grows surface o f f
  | plainJoins {key : String} {shown : Signature} {w : Operator} (kind : o.hasOutputs = false) :
      Grows surface o ⟨key, shown, .writer w⟩ ⟨key, shown, .both o w⟩
  | writerJoins {key : String} {shown own : Signature} {p : Operator} (kind : o.hasOutputs = true)
      (kept : o.signature surface .kept = .ok own) :
      Grows surface o ⟨key, shown, .plain p⟩ ⟨key, own, .both p o⟩

theorem grows_of_addPlain (kind : o.hasOutputs = false)
    (made : (f.addPlain o).outcome = .ok f') : Grows surface o f f' := by
  obtain ⟨key, shown, members⟩ := f
  cases members with
  | plain earlier =>
    obtain ⟨-, -, made⟩ := Run.outcome_bind.mp made
    cases made
    exact .plainIgnored kind rfl
  | writer w =>
    cases made
    exact .plainJoins kind
  | both earlier w =>
    obtain ⟨-, -, made⟩ := Run.outcome_bind.mp made
    cases made
    exact .plainIgnored kind rfl

theorem grows_of_addWriter (kind : o.hasOutputs = true)
    (made : (f.addWriter surface o).outcome = .ok f') : Grows surface o f f' := by
  obtain ⟨key, shown, members⟩ := f
  cases members with
  | plain p =>
    obtain ⟨own, kept, made⟩ := Run.outcome_bind.mp made
    cases made
    exact .writerJoins kind kept
  | writer earlier =>
    obtain ⟨-, -, made⟩ := Run.outcome_bind.mp made
    cases made
    exact .writerIgnored kind rfl
  | both p earlier =>
    obtain ⟨-, -, made⟩ := Run.outcome_bind.mp made
    cases made
    exact .writerIgnored kind rfl

/-- **One operator more** is one of the four steps. -/
theorem grows_of_add (made : (f.add surface o).outcome = .ok f') : Grows surface o f f' := by
  unfold OverloadFamily.add at made
  split at made
  · rename_i kind
    exact grows_of_addWriter kind made
  · rename_i kind
    exact grows_of_addPlain (by simpa using kind) made

/-- The family that an operator opens for its key has it for its only member. -/
inductive Opens (surface : Surface) (key : Signature) (o : Operator) : OverloadFamily → Prop
  | plain (kind : o.hasOutputs = false) : Opens surface key o ⟨key.text, key, .plain o⟩
  | writer {own : Signature} (kind : o.hasOutputs = true)
      (kept : o.signature surface .kept = .ok own) : Opens surface key o ⟨key.text, own, .writer o⟩

theorem opens_of_first (made : (first surface key o).outcome = .ok f) : Opens surface key o f := by
  unfold first at made
  split at made
  · rename_i kind
    obtain ⟨own, kept, made⟩ := Run.outcome_bind.mp made
    cases made
    exact .writer kind kept
  · rename_i kind
    cases made
    exact .plain (by simpa using kind)

/-! ## The invariant -/

/-- The family is made of operators of `os`, on a surface. -/
structure IsOf (surface : Surface) (os : List Operator) (f : OverloadFamily) : Prop where
  plain : ∀ o, f.plain? = some o → o ∈ os ∧ o.hasOutputs = false ∧ o.HasKey surface f.key
  writer : ∀ w, f.writer? = some w → w ∈ os ∧ w.hasOutputs = true ∧ w.HasKey surface f.key ∧
    w.signature surface .kept = .ok f.signature
  alone : f.writer? = none → ∀ o, f.plain? = some o → o.signature surface .elided = .ok f.signature

/-- **One operator more keeps the invariant.** -/
theorem Grows.isOf (step : Grows surface o f f') (h : f.IsOf surface os) (mem : o ∈ os)
    (keyed : o.HasKey surface f.key) : f'.IsOf surface os := by
  cases step with
  | plainIgnored => exact h
  | writerIgnored => exact h
  | @plainJoins key shown w kind =>
    refine ⟨?_, ?_, ?_⟩
    · intro p hp
      obtain rfl : o = p := Option.some.inj hp
      exact ⟨mem, kind, keyed⟩
    · intro v hv
      exact h.writer v hv
    · intro none
      cases none
  | @writerJoins key shown own p kind kept =>
    refine ⟨?_, ?_, ?_⟩
    · intro q hq
      exact h.plain q hq
    · intro w hw
      obtain rfl : o = w := Option.some.inj hw
      exact ⟨mem, kind, keyed, kept⟩
    · intro none
      cases none

theorem Opens.isOf (step : Opens surface key o f) (mem : o ∈ os)
    (hkey : o.signature surface .elided = .ok key) : f.IsOf surface os := by
  cases step with
  | plain kind =>
    refine ⟨?_, ?_, ?_⟩
    · intro p hp
      obtain rfl : o = p := Option.some.inj hp
      exact ⟨mem, kind, key, hkey, rfl⟩
    · intro w hw
      cases hw
    · intro _ p hp
      obtain rfl : o = p := Option.some.inj hp
      exact hkey
  | @writer own kind kept =>
    refine ⟨?_, ?_, ?_⟩
    · intro p hp
      cases hp
    · intro w hw
      obtain rfl : o = w := Option.some.inj hw
      exact ⟨mem, kind, ⟨key, hkey, rfl⟩, kept⟩
    · intro none
      cases none

theorem isOf_insert {families families' : List OverloadFamily}
    (h : ∀ f ∈ families, f.IsOf surface os) (mem : o ∈ os)
    (hkey : o.signature surface .elided = .ok key)
    (made : (insert surface key o families).outcome = .ok families') :
    ∀ f ∈ families', f.IsOf surface os := by
  induction families generalizing families' with
  | nil =>
    obtain ⟨f, hf, made⟩ := Run.outcome_bind.mp made
    cases made
    simpa using (opens_of_first hf).isOf mem hkey
  | cons f families ih =>
    have head := h f List.mem_cons_self
    have tail : ∀ g ∈ families, g.IsOf surface os := fun g hg => h g (List.mem_cons_of_mem f hg)
    simp only [insert] at made
    split at made
    · rename_i same
      obtain ⟨f', hf', made⟩ := Run.outcome_bind.mp made
      cases made
      have keyed : o.HasKey surface f.key := ⟨key, hkey, same.symm⟩
      exact List.forall_mem_cons.mpr ⟨(grows_of_add hf').isOf head mem keyed, tail⟩
    · obtain ⟨rest, hrest, made⟩ := Run.outcome_bind.mp made
      cases made
      exact List.forall_mem_cons.mpr ⟨head, ih tail hrest⟩

/-! ## All operators -/

theorem isOf_gather {families families' : List OverloadFamily} {rest : List Operator}
    (h : ∀ f ∈ families, f.IsOf surface os) (mem : ∀ o ∈ rest, o ∈ os)
    (made : (gather surface families rest).outcome = .ok families') :
    ∀ f ∈ families', f.IsOf surface os := by
  induction rest generalizing families with
  | nil =>
    cases made
    exact h
  | cons o rest ih =>
    obtain ⟨key, hkey, made⟩ := Run.outcome_bind.mp made
    obtain ⟨next, hnext, made⟩ := Run.outcome_bind.mp made
    exact ih (isOf_insert h (mem o List.mem_cons_self) hkey hnext)
      (fun p hp => mem p (List.mem_cons_of_mem o hp)) made

/-- Families are only put in order. -/
theorem prioritised_perm (families : List OverloadFamily) :
    (prioritised families).Perm families := by
  have blocks := List.filter_append_perm (fun f : OverloadFamily => f.writer?.isNone) families
  simpa [prioritised] using blocks

theorem mem_prioritised {families : List OverloadFamily} :
    f ∈ prioritised families ↔ f ∈ families := (prioritised_perm families).mem_iff

/-! ## Keys -/

theorem Grows.key_eq (step : Grows surface o f f') : f'.key = f.key := by
  cases step <;> rfl

theorem Opens.key_eq (step : Opens surface key o f) : f.key = key.text := by
  cases step <;> rfl

/-- The key of one operator more is added at the end, unless a family has it. -/
theorem keys_insert {families families' : List OverloadFamily}
    (made : (insert surface key o families).outcome = .ok families') :
    families'.map (·.key) =
      if key.text ∈ families.map (·.key) then families.map (·.key)
      else families.map (·.key) ++ [key.text] := by
  induction families generalizing families' with
  | nil =>
    obtain ⟨f, hf, made⟩ := Run.outcome_bind.mp made
    cases made
    simp [(opens_of_first hf).key_eq]
  | cons f families ih =>
    simp only [insert] at made
    split at made
    · rename_i same
      obtain ⟨f', hf', made⟩ := Run.outcome_bind.mp made
      cases made
      simp [(grows_of_add hf').key_eq, same]
    · rename_i other
      obtain ⟨rest, hrest, made⟩ := Run.outcome_bind.mp made
      cases made
      rw [List.map_cons, List.map_cons, ih hrest]
      by_cases old : key.text ∈ families.map (·.key)
      · rw [if_pos old, if_pos (List.mem_cons_of_mem _ old)]
      · rw [if_neg old, if_neg (List.not_mem_cons_of_ne_of_not_mem (Ne.symm other) old),
          List.cons_append]

/-- One operator more repeats no key. -/
theorem nodup_keys_insert {families families' : List OverloadFamily}
    (distinct : (families.map (·.key)).Nodup)
    (made : (insert surface key o families).outcome = .ok families') :
    (families'.map (·.key)).Nodup := by
  rw [keys_insert made]
  split
  · exact distinct
  · rename_i new
    exact List.nodup_append.mpr ⟨distinct, by simp, by
      intro a ha b hb
      obtain rfl := List.mem_singleton.mp hb
      exact fun same => new (same ▸ ha)⟩

/-- Gathering repeats no key, and has a family for the key of every operator. -/
theorem keys_gather {families families' : List OverloadFamily} {rest : List Operator}
    (distinct : (families.map (·.key)).Nodup)
    (made : (gather surface families rest).outcome = .ok families') :
    (families'.map (·.key)).Nodup ∧ families.map (·.key) ⊆ families'.map (·.key) ∧
      ∀ o ∈ rest, ∃ key ∈ families'.map (·.key), o.HasKey surface key := by
  induction rest generalizing families with
  | nil =>
    cases made
    exact ⟨distinct, List.Subset.refl _, by simp⟩
  | cons o rest ih =>
    obtain ⟨key, hkey, made⟩ := Run.outcome_bind.mp made
    obtain ⟨next, hnext, made⟩ := Run.outcome_bind.mp made
    have step := keys_insert hnext
    have grown : families.map (·.key) ⊆ next.map (·.key) := by
      rw [step]
      split
      · exact List.Subset.refl _
      · exact List.subset_append_left _ _
    have mem : key.text ∈ next.map (·.key) := by
      rw [step]
      split
      · assumption
      · simp
    obtain ⟨nodup, kept, found⟩ := ih (nodup_keys_insert distinct hnext) made
    refine ⟨nodup, List.Subset.trans grown kept, List.forall_mem_cons.mpr ⟨?_, found⟩⟩
    exact ⟨key.text, kept mem, key, hkey, rfl⟩

/-! ## The families that are handed on -/

/-- The families that are handed on are those that were gathered, put in order. -/
theorem eq_prioritised_of_ofOperators {policy : LoneWriter} {name : String}
    {families : List OverloadFamily}
    (made : (ofOperators policy name surface os).outcome = .ok families) :
    ∃ gathered, (gather surface [] os).outcome = .ok gathered ∧ families = prioritised gathered := by
  obtain ⟨gathered, hgathered, made⟩ := Run.outcome_bind.mp made
  obtain ⟨-, -, made⟩ := Run.outcome_bind.mp made
  obtain ⟨-, -, made⟩ := Run.outcome_bind.mp made
  cases made
  exact ⟨gathered, hgathered, rfl⟩

/-- **Every family is made of the operators that it was made from.** -/
theorem isOf_of_ofOperators {policy : LoneWriter} {name : String}
    {families : List OverloadFamily}
    (made : (ofOperators policy name surface os).outcome = .ok families) :
    ∀ f ∈ families, f.IsOf surface os := by
  obtain ⟨gathered, hgathered, rfl⟩ := eq_prioritised_of_ofOperators made
  intro f hf
  exact isOf_gather (by simp) (fun _ h => h) hgathered f (mem_prioritised.mp hf)

/-- The operator is one of `os` and was put into the family, for a member or
to be ignored. -/
def Takes (surface : Surface) (os : List Operator) (f : OverloadFamily) (o : Operator) : Prop :=
  o ∈ os ∧ o.HasKey surface f.key

/-- A family takes its members. -/
theorem IsOf.takes (h : f.IsOf surface os) (member : f.plain? = some o ∨ f.writer? = some o) :
    f.Takes surface os o := by
  rcases member with plain | writer
  · obtain ⟨mem, -, keyed⟩ := h.plain o plain
    exact ⟨mem, keyed⟩
  · obtain ⟨mem, -, keyed, -⟩ := h.writer o writer
    exact ⟨mem, keyed⟩

/-- **Every operator is taken by exactly one family.** -/
theorem existsUnique_takes {policy : LoneWriter} {name : String} {families : List OverloadFamily}
    (made : (ofOperators policy name surface os).outcome = .ok families) (mem : o ∈ os) :
    ∃! f, f ∈ families ∧ f.Takes surface os o := by
  obtain ⟨gathered, hgathered, rfl⟩ := eq_prioritised_of_ofOperators made
  obtain ⟨distinct, -, found⟩ := keys_gather (by simp) hgathered
  obtain ⟨key, hkey, keyed⟩ := found o mem
  obtain ⟨f, hf, rfl⟩ := List.mem_map.mp hkey
  refine ⟨f, ⟨mem_prioritised.mpr hf, mem, keyed⟩, ?_⟩
  rintro g ⟨hg, -, keyed'⟩
  have same : g.key = f.key := keyed'.unique keyed
  exact List.inj_on_of_nodup_map distinct (mem_prioritised.mp hg) hf same

end OverloadFamily

end OpBindings
