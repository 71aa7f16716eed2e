/-
OpBindings.Proofs.Interchange — operators that a binding cannot tell apart.

Where an operator goes is decided by its kinds of call and its module; how it
is bound there is not. `Operator.bare` leaves these two out, and every stage
of binding makes the same of an operator and of the bare one, down to the
journal (`byName_eq_of_bare_eq`). Two operators of one declaration can stand
for each other wherever both are bound.
-/
import OpBindings.Generated

namespace OpBindings

/-- The operator without what decides where it goes. -/
def Operator.bare (o : Operator) : Operator := { o with calls := {}, moduleTag := none }

namespace Run

variable {α β γ : Type}

theorem each_map (step : β → Run γ) (change : α → β) (as : List α) :
    each step (as.map change) = each (fun a => step (change a)) as := by
  induction as with
  | nil => rfl
  | cons a as ih => simp only [List.map_cons, each, ih]

end Run

namespace Operator

/-! ## Calls -/

@[simp] theorem bare_name (o : Operator) : o.bare.name = o.name := rfl

@[simp] theorem bare_text (o : Operator) : o.bare.text = o.text := rfl

@[simp] theorem bare_baseName (o : Operator) : o.bare.baseName = o.baseName := rfl

@[simp] theorem bare_hasOutputs (o : Operator) : o.bare.hasOutputs = o.hasOutputs := rfl

@[simp] theorem bare_slots (o : Operator) (surface : Surface) (outputs : Outputs) :
    o.bare.slots surface outputs = o.slots surface outputs := rfl

@[simp] theorem bare_exclusion? (o : Operator) : o.bare.exclusion? = o.exclusion? := rfl

theorem bare_signatureItems (o : Operator) (byName : Bool) (ps : List Param) :
    o.bare.signatureItems byName ps = o.signatureItems byName ps := by
  induction ps generalizing byName with
  | nil => rfl
  | cons p ps ih =>
    simp only [signatureItems, ih]
    rfl

@[simp] theorem bare_signature (o : Operator) (surface : Surface) (outputs : Outputs) :
    o.bare.signature surface outputs = o.signature surface outputs := by
  simp only [signature, bare_signatureItems]
  rfl

theorem bare_dispatchParams (o : Operator) (surface : Surface) (layout : List Slot) (placed : Bool)
    (index : Nat) (ps : List Param) :
    o.bare.dispatchParams surface layout placed index ps =
      o.dispatchParams surface layout placed index ps := by
  induction ps generalizing placed index with
  | nil => rfl
  | cons p ps ih =>
    simp only [dispatchParams, ih]
    rfl

@[simp] theorem bare_callIn (o : Operator) (surface : Surface) (layout : List Slot) :
    o.bare.callIn surface layout = o.callIn surface layout := by
  unfold callIn
  rw [bare_dispatchParams]
  rfl

@[simp] theorem bare_call (o : Operator) (surface : Surface) :
    o.bare.call surface = o.call surface := by simp [call]

@[simp] theorem bare_firstOutPosition? (o : Operator) (layout : List Slot) :
    o.bare.firstOutPosition? layout = o.firstOutPosition? layout := rfl

end Operator

/-! ## Families -/

/-- The members without what decides where they go. -/
def Members.bare : Members → Members
  | plain o => plain o.bare
  | writer w => writer w.bare
  | both o w => both o.bare w.bare

/-- The family of the bare members. -/
def OverloadFamily.bare (f : OverloadFamily) : OverloadFamily := { f with members := f.members.bare }

@[simp] theorem FamilyCall.ofMembers_bare (surface : Surface) (m : Members) :
    ofMembers surface m.bare = ofMembers surface m := by
  cases m <;> simp [ofMembers, Members.bare]

namespace OverloadFamily

theorem addPlain_bare (f : OverloadFamily) (o : Operator) :
    f.bare.addPlain o.bare = bare <$> f.addPlain o := by
  obtain ⟨key, signature, members⟩ := f
  cases members <;> simp [addPlain, bare, Members.bare]

theorem addWriter_bare (surface : Surface) (f : OverloadFamily) (w : Operator) :
    f.bare.addWriter surface w.bare = bare <$> f.addWriter surface w := by
  obtain ⟨key, signature, members⟩ := f
  cases members <;> simp [addWriter, bare, Members.bare]

theorem add_bare (surface : Surface) (f : OverloadFamily) (o : Operator) :
    f.bare.add surface o.bare = bare <$> f.add surface o := by
  unfold add
  rw [Operator.bare_hasOutputs]
  split
  · exact addWriter_bare surface f o
  · exact addPlain_bare f o

theorem first_bare (surface : Surface) (key : Signature) (o : Operator) :
    first surface key o.bare = bare <$> first surface key o := by
  unfold first
  rw [Operator.bare_hasOutputs, Operator.bare_signature]
  split <;> simp [bare, Members.bare]

theorem insert_bare (surface : Surface) (key : Signature) (o : Operator)
    (families : List OverloadFamily) :
    insert surface key o.bare (families.map bare) =
      List.map bare <$> insert surface key o families := by
  induction families with
  | nil => simp [insert, first_bare]
  | cons f families ih =>
    simp only [List.map_cons, insert]
    have sameKey : f.bare.key = f.key := rfl
    rw [sameKey]
    split
    · simp [add_bare]
    · simp [ih]

theorem gather_bare (surface : Surface) (families : List OverloadFamily) (os : List Operator) :
    gather surface (families.map bare) (os.map Operator.bare) =
      List.map bare <$> gather surface families os := by
  induction os generalizing families with
  | nil => simp [gather]
  | cons o os ih => simp [gather, insert_bare, ih]

theorem settleLone_bare (policy : LoneWriter) (families : List OverloadFamily) :
    settleLone policy (families.map bare) = settleLone policy families := by
  induction families with
  | nil => rfl
  | cons f families ih =>
    have one : settleOne policy f.bare = settleOne policy f := by
      obtain ⟨key, signature, members⟩ := f
      cases members <;> rfl
    simp only [List.map_cons, settleLone, one, ih]

theorem prioritised_bare (families : List OverloadFamily) :
    prioritised (families.map bare) = (prioritised families).map bare := by
  have writer : ∀ f : OverloadFamily, f.bare.writer?.isSome = f.writer?.isSome := by
    intro h
    obtain ⟨key, signature, members⟩ := h
    cases members <;> rfl
  simp [prioritised, List.filter_map, Function.comp_def, writer, ← Option.not_isSome]

/-- **Families of bare operators** are the bare families. -/
theorem ofOperators_bare (policy : LoneWriter) (name : String) (surface : Surface)
    (os : List Operator) :
    ofOperators policy name surface (os.map Operator.bare) =
      List.map bare <$> ofOperators policy name surface os := by
  have gathered := gather_bare surface [] os
  simp only [List.map_nil] at gathered
  simp [ofOperators, gathered, settleLone_bare, prioritised_bare]

end OverloadFamily

/-! ## Bindings -/

namespace Binding

theorem ofFamilies_bare (name : String) (surface : Surface) (families : List OverloadFamily) :
    ofFamilies name surface (families.map OverloadFamily.bare) =
      ofFamilies name surface families := by
  have arms : ∀ f : OverloadFamily, arm surface f.bare = arm surface f := by
    intro f
    simp [arm, OverloadFamily.bare]
  simp [ofFamilies, Run.each_map, arms]

theorem ofOperators_bare (policy : LoneWriter) (name : String) (surface : Surface)
    (os : List Operator) :
    ofOperators policy name surface (os.map Operator.bare) = ofOperators policy name surface os := by
  simp [ofOperators, OverloadFamily.ofOperators_bare, ofFamilies_bare]

end Binding

theorem byBaseName_bare (os : List Operator) :
    byBaseName (os.map Operator.bare) =
      (byBaseName os).map fun (name, members) => (name, members.map Operator.bare) := by
  have step : ∀ (o : Operator) (named : List (String × List Operator)),
      addNamed o.bare (named.map fun (name, members) => (name, members.map Operator.bare)) =
        (addNamed o named).map fun (name, members) => (name, members.map Operator.bare) := by
    intro o named
    induction named with
    | nil => rfl
    | cons entry rest ih =>
      obtain ⟨name, members⟩ := entry
      simp only [List.map_cons, addNamed, Operator.bare_baseName, ih]
      split
      · rfl
      · split <;> rfl
  induction os with
  | nil => rfl
  | cons o os ih =>
    simp only [byBaseName, List.map_cons, List.foldr_cons] at ih ⊢
    rw [ih, step]

namespace Binding

theorem byName_bare (policy : LoneWriter) (surface : Surface) (os : List Operator) :
    byName policy surface (os.map Operator.bare) = byName policy surface os := by
  simp [byName, byBaseName_bare, Run.each_map, ofOperators_bare]

/-- **Lists that are the same when bare are bound alike**, whatever comes of it. -/
theorem byName_eq_of_bare_eq (policy : LoneWriter) (surface : Surface) {os os' : List Operator}
    (h : os.map Operator.bare = os'.map Operator.bare) :
    byName policy surface os = byName policy surface os' := by
  rw [← byName_bare policy surface os, h, byName_bare]

end Binding

end OpBindings
