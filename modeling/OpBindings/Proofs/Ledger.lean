/-
OpBindings.Proofs.Ledger — no operator is lost while overloads are gathered.

Gathering puts each operator into a family or ignores it, and ignoring is the
only thing that it notes. `Run.Settles step before after` is the ledger of one
step: the operators `before` are, but for their order, those `after` and those
that the step's notes name. It is kept by one operator more (`settles_add`), by
an insertion, and so by the gathering of a whole list.
-/
import OpBindings.Proofs.Noting
import OpBindings.Proofs.OverloadFamily

namespace OpBindings

/-- The note warns that the operator is ignored. -/
def Note.Ignores (n : Note) (o : Operator) : Prop :=
  ∃ provider key, n = .plainIgnored o.name provider key ∨ n = .writerIgnored o.name provider key

/-- Such a note is a warning, and its text names the operator. -/
theorem Note.Ignores.message {n : Note} {o : Operator} (h : n.Ignores o) :
    n.level = .warn ∧ ∃ rest, n.message = "Ignoring " ++ o.name ++ ": " ++ rest := by
  obtain ⟨provider, key, rfl | rfl⟩ := h
  · have text : (Note.plainIgnored o.name provider key).message =
        "Ignoring " ++ o.name ++ ": " ++ provider ++ " already provides " ++ key := rfl
    refine ⟨rfl, provider ++ (" already provides " ++ key), ?_⟩
    rw [text, String.append_assoc, String.append_assoc]
  · have text : (Note.writerIgnored o.name provider key).message =
        "Ignoring " ++ o.name ++ ": " ++ provider ++ " already provides out for " ++ key := rfl
    refine ⟨rfl, provider ++ (" already provides out for " ++ key), ?_⟩
    rw [text, String.append_assoc, String.append_assoc]

/-- The operators that are members of a family. -/
def Members.operators : Members → List Operator
  | .plain o => [o]
  | .writer w => [w]
  | .both o w => [o, w]

namespace OverloadFamily

/-- The members of the families. -/
def operators (families : List OverloadFamily) : List Operator :=
  families.flatMap (·.members.operators)

theorem operators_cons (f : OverloadFamily) (families : List OverloadFamily) :
    operators (f :: families) = f.members.operators ++ operators families := List.flatMap_cons

theorem mem_operators_iff {f : OverloadFamily} {o : Operator} :
    o ∈ f.members.operators ↔ f.plain? = some o ∨ f.writer? = some o := by
  obtain ⟨key, shown, members⟩ := f
  cases members <;> simp [Members.operators, plain?, writer?, Members.plain?, Members.writer?, eq_comm]

end OverloadFamily

/-! ## The ledger of a step -/

/-- The operators `before` are those `after` and those that the notes of the step name. -/
def Run.Settles {α : Type} (step : Run α) (before after : List Operator) : Prop :=
  ∃ ignored, List.Forall₂ Note.Ignores step.journal.notes ignored ∧
    (after ++ ignored).Perm before

namespace OverloadFamily

variable {surface : Surface} {f f' : OverloadFamily} {o : Operator} {key : Signature}
  {families families' : List OverloadFamily}

theorem settles_addPlain (made : (f.addPlain o).outcome = .ok f') :
    (f.addPlain o).Settles (f.members.operators ++ [o]) f'.members.operators := by
  obtain ⟨key, shown, members⟩ := f
  cases members with
  | plain earlier =>
    obtain ⟨-, -, made⟩ := Run.outcome_bind.mp made
    cases made
    exact ⟨[o], .cons ⟨_, _, .inl rfl⟩ .nil, .refl _⟩
  | writer w =>
    cases made
    exact ⟨[], .nil, .swap _ _ _⟩
  | both earlier w =>
    obtain ⟨-, -, made⟩ := Run.outcome_bind.mp made
    cases made
    exact ⟨[o], .cons ⟨_, _, .inl rfl⟩ .nil, .refl _⟩

theorem settles_addWriter (made : (f.addWriter surface o).outcome = .ok f') :
    (f.addWriter surface o).Settles (f.members.operators ++ [o]) f'.members.operators := by
  obtain ⟨key, shown, members⟩ := f
  cases members with
  | plain p =>
    obtain ⟨own, -, made⟩ := Run.outcome_bind.mp made
    cases made
    rw [addWriter, Run.Settles, Run.notes_bind_pure]
    exact ⟨[], .nil, .refl _⟩
  | writer earlier =>
    obtain ⟨-, -, made⟩ := Run.outcome_bind.mp made
    cases made
    exact ⟨[o], .cons ⟨_, _, .inr rfl⟩ .nil, .refl _⟩
  | both p earlier =>
    obtain ⟨-, -, made⟩ := Run.outcome_bind.mp made
    cases made
    exact ⟨[o], .cons ⟨_, _, .inr rfl⟩ .nil, .refl _⟩

/-- **One operator more** becomes a member or is named in a note. -/
theorem settles_add (made : (f.add surface o).outcome = .ok f') :
    (f.add surface o).Settles (f.members.operators ++ [o]) f'.members.operators := by
  unfold OverloadFamily.add at made ⊢
  split
  · rename_i kind
    rw [if_pos kind] at made
    exact settles_addWriter made
  · rename_i kind
    rw [if_neg kind] at made
    exact settles_addPlain made

theorem settles_first (made : (first surface key o).outcome = .ok f) :
    (first surface key o).Settles [o] f.members.operators := by
  unfold first at made ⊢
  split
  · rename_i kind
    rw [if_pos kind] at made
    obtain ⟨own, -, made⟩ := Run.outcome_bind.mp made
    cases made
    rw [Run.Settles, Run.notes_bind_pure]
    exact ⟨[], .nil, .refl _⟩
  · rename_i kind
    rw [if_neg kind] at made
    cases made
    exact ⟨[], .nil, .refl _⟩

theorem settles_insert (made : (insert surface key o families).outcome = .ok families') :
    (insert surface key o families).Settles (operators families ++ [o]) (operators families') := by
  induction families generalizing families' with
  | nil =>
    obtain ⟨f, hf, made⟩ := Run.outcome_bind.mp made
    cases made
    obtain ⟨ignored, named, whole⟩ := settles_first hf
    refine ⟨ignored, ?_, ?_⟩
    · rw [insert, Run.notes_bind_pure]
      exact named
    · simpa [operators] using whole
  | cons f families ih =>
    rw [insert] at made ⊢
    split
    · rename_i same
      rw [if_pos same] at made
      obtain ⟨f', hf', made⟩ := Run.outcome_bind.mp made
      cases made
      obtain ⟨ignored, named, whole⟩ := settles_add hf'
      refine ⟨ignored, ?_, ?_⟩
      · rw [Run.notes_bind_pure]
        exact named
      · refine List.perm_iff_count.mpr fun p => ?_
        have one := whole.count_eq p
        simp only [operators_cons, List.count_append] at one ⊢
        omega
    · rename_i other
      rw [if_neg other] at made
      obtain ⟨rest, hrest, made⟩ := Run.outcome_bind.mp made
      cases made
      obtain ⟨ignored, named, whole⟩ := ih hrest
      refine ⟨ignored, ?_, ?_⟩
      · rw [Run.notes_bind_pure]
        exact named
      · rw [operators_cons, operators_cons, List.append_assoc, List.append_assoc]
        exact whole.append_left _

/-! ## The ledger of a name -/

/-- **Gathering loses no operator.** -/
theorem settles_gather {rest : List Operator}
    (made : (gather surface families rest).outcome = .ok families') :
    (gather surface families rest).Settles (operators families ++ rest) (operators families') := by
  induction rest generalizing families with
  | nil =>
    cases made
    exact ⟨[], .nil, .refl _⟩
  | cons o rest ih =>
    obtain ⟨key, hkey, made⟩ := Run.outcome_bind.mp made
    obtain ⟨next, hnext, made⟩ := Run.outcome_bind.mp made
    obtain ⟨first, named, whole⟩ := settles_insert hnext
    obtain ⟨others, named', whole'⟩ := ih made
    refine ⟨first ++ others, ?_, ?_⟩
    · rw [gather, Run.notes_bind hkey, Run.notes_bind hnext]
      exact List.rel_append named named'
    · refine List.perm_iff_count.mpr fun p => ?_
      have one := whole.count_eq p
      have all := whole'.count_eq p
      simp only [List.count_append, List.count_cons, List.count_nil] at one all ⊢
      omega

theorem operators_prioritised (families : List OverloadFamily) :
    (operators (prioritised families)).Perm (operators families) :=
  (prioritised_perm families).flatMap_right _

/-- What becomes of the operators of a name: members of the families, each in
one family only, or operators that were ignored and named in a warning. -/
structure IsAccount (families : List OverloadFamily) (ignored os : List Operator) (j : Journal) :
    Prop where
  whole : (operators families ++ ignored).Perm os
  owned : ∀ o ∈ os, (∃! f, f ∈ families ∧ o ∈ f.members.operators) ∨ o ∈ ignored
  noted : ∃ notes, notes.Sublist j.notes ∧ List.Forall₂ Note.Ignores notes ignored

/-- An account does not depend on the order of the operators. -/
theorem IsAccount.of_perm {ignored os os' : List Operator} {j : Journal}
    (h : IsAccount families ignored os j) (perm : os.Perm os') :
    IsAccount families ignored os' j where
  whole := h.whole.trans perm
  owned o mem := h.owned o (perm.mem_iff.mpr mem)
  noted := h.noted

/-- **No operator of a name is lost.** -/
theorem isAccount_of_ofOperators {policy : LoneWriter} {name : String} {os : List Operator}
    {j : Journal} (made : (ofOperators policy name surface os).outcome = .ok families)
    (noted : (ofOperators policy name surface os).NotedIn j) :
    ∃ ignored, IsAccount families ignored os j := by
  have takes := fun o mem => existsUnique_takes (o := o) made mem
  have isOf := isOf_of_ofOperators made
  obtain ⟨gathered, hgathered, rfl⟩ := eq_prioritised_of_ofOperators made
  obtain ⟨ignored, named, whole⟩ := settles_gather hgathered
  have all : (operators (prioritised gathered) ++ ignored).Perm os :=
    ((operators_prioritised gathered).append_right ignored).trans whole
  refine ⟨ignored, all, fun o mem => ?_, _, (Run.notedIn_bind hgathered noted).1, named⟩
  rcases List.mem_append.mp (all.mem_iff.mpr mem) with member | out
  · obtain ⟨f, hf, member⟩ := List.mem_flatMap.mp member
    obtain ⟨owner, -, only⟩ := takes o mem
    refine .inl ⟨f, ⟨hf, member⟩, fun g hg => ?_⟩
    have belongs : ∀ g ∈ prioritised gathered, o ∈ g.members.operators → g = owner :=
      fun g hg member => only g ⟨hg, (isOf g hg).takes (mem_operators_iff.mp member)⟩
    rw [belongs f hf member, belongs g hg.1 hg.2]
  · exact .inr out

end OverloadFamily

end OpBindings
