/-
OpBindings.Proofs.Ascending — lists of entries by ascending keys.

The operators of a base name and the counts of a reason are kept in one way:
in a list of entries with ascending keys, into which one thing more is put at
its key. `upsert` is this step, and it changes the value of its key and no
other (`lookup_upsert`). The two of the model are cases of it (`addNamed_eq`,
`countReason_eq`).
-/
import OpBindings.Generated

namespace OpBindings

variable {β : Type}

/-- The keys ascend. -/
def Ascending (entries : List (String × β)) : Prop := entries.Pairwise fun a b => a.1 < b.1

/-- The entries with the value at `key` changed. -/
def upsert (key : String) (change : Option β → β) : List (String × β) → List (String × β)
  | [] => [(key, change none)]
  | (other, b) :: rest =>
    if key < other then (key, change none) :: (other, b) :: rest
    else if key = other then (other, change (some b)) :: rest
    else (other, b) :: upsert key change rest

theorem addNamed_eq (o : Operator) (groups : List (String × List Operator)) :
    addNamed o groups = upsert o.baseName (fun members => o :: members.getD []) groups := by
  induction groups with
  | nil => rfl
  | cons entry rest ih =>
    simp only [addNamed, upsert, ih, Option.getD_none, Option.getD_some]

theorem Statistics.countReason_eq (reason : String) (reasons : List (String × Nat)) :
    countReason reason reasons = upsert reason (fun count => count.getD 0 + 1) reasons := by
  induction reasons with
  | nil => rfl
  | cons entry rest ih =>
    simp only [countReason, upsert, ih, Option.getD_none, Option.getD_some, Nat.zero_add]
    by_cases same : reason = entry.1
    · subst same
      rw [if_pos rfl, if_neg (String.lt_irrefl _), if_pos rfl]
    · simp only [if_neg same]

section Entries

variable {entries : List (String × β)} {key : String} {change : Option β → β}

/-- No entry has a key below the first. -/
theorem lookup_eq_none_of_lt (below : ∀ entry ∈ entries, key < entry.1) :
    entries.lookup key = none :=
  List.lookup_eq_none_iff.mpr fun entry mem => by simpa using String.ne_of_lt (below entry mem)

theorem key_mem_upsert {entry : String × β} (mem : entry ∈ upsert key change entries) :
    entry.1 = key ∨ ∃ old ∈ entries, entry.1 = old.1 := by
  induction entries with
  | nil => exact .inl (List.mem_singleton.mp mem ▸ rfl)
  | cons head rest ih =>
    rw [upsert] at mem
    split at mem
    · rcases List.mem_cons.mp mem with rfl | mem
      · exact .inl rfl
      · exact .inr ⟨entry, mem, rfl⟩
    · split at mem
      · rcases List.mem_cons.mp mem with rfl | mem
        · exact .inr ⟨head, List.mem_cons_self, rfl⟩
        · exact .inr ⟨entry, List.mem_cons_of_mem _ mem, rfl⟩
      · rcases List.mem_cons.mp mem with rfl | mem
        · exact .inr ⟨head, List.mem_cons_self, rfl⟩
        · rcases ih mem with same | ⟨old, mem, same⟩
          · exact .inl same
          · exact .inr ⟨old, List.mem_cons_of_mem _ mem, same⟩

theorem ascending_upsert (h : Ascending entries) : Ascending (upsert key change entries) := by
  induction entries with
  | nil => exact List.pairwise_singleton _ _
  | cons head rest ih =>
    obtain ⟨below, tail⟩ := List.pairwise_cons.mp h
    rw [upsert]
    split
    · rename_i before
      refine List.pairwise_cons.mpr ⟨List.forall_mem_cons.mpr ⟨before, fun entry mem => ?_⟩, h⟩
      exact String.lt_trans before (below entry mem)
    · rename_i notBefore
      split
      · exact List.pairwise_cons.mpr ⟨below, tail⟩
      · rename_i other
        refine List.pairwise_cons.mpr ⟨fun entry mem => ?_, ih tail⟩
        rcases key_mem_upsert mem with same | ⟨old, mem, same⟩
        · rw [same]
          exact String.not_le.mp fun le => other (String.le_antisymm le (String.not_lt.mp notBefore))
        · rw [same]
          exact below old mem

theorem lookup_cons_eq (head : String × β) (rest : List (String × β)) (name : String) :
    (head :: rest).lookup name = if name = head.1 then some head.2 else rest.lookup name := by
  rw [List.lookup_cons]
  by_cases same : name = head.1
  · simp [same]
  · have differ : (name == head.1) = false := beq_eq_false_iff_ne.mpr same
    simp [same, differ]

/-- **The value at the key is changed**, and no other. -/
theorem lookup_upsert (h : Ascending entries) (name : String) :
    (upsert key change entries).lookup name =
      if name = key then some (change (entries.lookup key)) else entries.lookup name := by
  induction entries with
  | nil => simp only [upsert, lookup_cons_eq, List.lookup_nil]
  | cons head rest ih =>
    obtain ⟨below, tail⟩ := List.pairwise_cons.mp h
    rw [upsert]
    split
    · rename_i before
      have fresh : (head :: rest).lookup key = none :=
        lookup_eq_none_of_lt (List.forall_mem_cons.mpr
          ⟨before, fun entry mem => String.lt_trans before (below entry mem)⟩)
      rw [lookup_cons_eq, fresh]
    · split
      · rename_i same
        simp only [lookup_cons_eq, same, if_true]
        split <;> simp [*]
      · rename_i other
        simp only [lookup_cons_eq, ih tail, other, if_false]
        by_cases first : name = head.1
        · simp [first, Ne.symm other]
        · simp [first]

/-- An entry is what is found at its key. -/
theorem mem_iff_lookup (h : Ascending entries) {b : β} :
    (key, b) ∈ entries ↔ entries.lookup key = some b := by
  induction entries with
  | nil => simp
  | cons head rest ih =>
    obtain ⟨below, tail⟩ := List.pairwise_cons.mp h
    rw [List.mem_cons, lookup_cons_eq, ih tail]
    by_cases first : key = head.1
    · subst first
      have fresh : rest.lookup head.1 = none := lookup_eq_none_of_lt below
      simp [fresh, Prod.ext_iff, eq_comm]
    · simp [first, Prod.ext_iff]

end Entries

end OpBindings
