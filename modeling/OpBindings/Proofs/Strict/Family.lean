/-
OpBindings.Proofs.Strict.Family — families gathered as groups that begin without members.

A family has a member by its type. A group need not (`Strict.Group`): it is opened for a
key without any, put at the end of the groups, found again by number and given its
operator, and whoever asks for the operator that represents it may get no answer.
Adding an operator to the groups is one step here, as it is for families, and after
that step each group is a family again (`add_eq`). That is the invariant; from it the
groups of any list of operators are its families (`ofOperators_eq`), and every one
that is asked has a representative (`representative_ofFamily`).
-/
import OpBindings.Binding.Plan
import OpBindings.Proofs.Strict.Call

namespace OpBindings.Strict

variable {surface : Surface}

/-! ## Groups -/

/-- Overloads of one key, perhaps none. -/
structure Group where
  key : String
  signature : Signature
  plain : Option Operator
  writer : Option Operator

namespace Group

/-- A family as a group. -/
def ofFamily (f : OverloadFamily) : Group where
  key := f.key
  signature := f.signature
  plain := f.plain?
  writer := f.writer?

/-- The operator that is called when `out` is omitted; a group without members has none. -/
def representative (g : Group) : Option Operator :=
  match g.plain, g.writer with
  | some o, _ => some o
  | none, some w => some w
  | none, none => none

/-- A group that is opened for a key. -/
def opened (key : Signature) : Group where
  key := key.text
  signature := key
  plain := none
  writer := none

/-- The group with one more operator of its key. -/
def add (surface : Surface) (g : Group) (o : Operator) : Step Group :=
  if o.hasOutputs then
    match g.writer with
    | some earlier => do
      Step.sure (Run.note (.writerIgnored o.name earlier.name g.key))
      pure g
    | none => do
      let signature ← Strict.signature o surface .kept
      pure { g with signature, writer := some o }
  else
    match g.plain with
    | some earlier => do
      Step.sure (Run.note (.plainIgnored o.name earlier.name g.key))
      pure g
    | none => pure { g with plain := some o }

end Group

/-! ## Gathering -/

/-- The groups with one for the key, opened at the end where there was none, and the
number of that group. -/
def place (key : Signature) (groups : List Group) : List Group × Nat :=
  match groups.findIdx? (·.key == key.text) with
  | some index => (groups, index)
  | none => (groups ++ [Group.opened key], groups.length)

/-- The groups with one more operator, which the group of its key gets. -/
def add (surface : Surface) (key : Signature) (o : Operator) (groups : List Group) :
    Step (List Group) := do
  let g ← Step.ask (place key groups).1[(place key groups).2]?
  let g ← g.add surface o
  pure ((place key groups).1.set (place key groups).2 g)

def gather (surface : Surface) (groups : List Group) : List Operator → Step (List Group)
  | [] => pure groups
  | o :: os => do
    let key ← signature o surface .elided
    let groups ← add surface key o groups
    gather surface groups os

def settleOne (policy : LoneWriter) (g : Group) : Step Unit :=
  if g.plain.isNone then do
    let o ← Step.ask g.representative
    match policy with
    | .refuse => Step.sure (Run.fail (.loneWriter o.name g.key))
    | .accept => do
      Step.sure (Run.note (.loneWriter o.name g.key))
      Step.sure (Run.tally .loneWriter)
  else pure ()

def settleLone (policy : LoneWriter) : List Group → Step Unit
  | [] => pure ()
  | g :: groups => do
    settleOne policy g
    settleLone policy groups

def prioritised (groups : List Group) : List Group :=
  groups.filter (·.writer.isNone) ++ groups.filter (·.writer.isSome)

/-- The groups of the operators named `name` on a surface. -/
def ofOperators (policy : LoneWriter) (name : String) (surface : Surface)
    (operators : List Operator) : Step (List Group) := do
  let groups ← gather surface [] operators
  settleLone policy groups
  Step.sure (Run.note (.grouped name surface groups.length))
  pure (prioritised groups)

/-! ## Groups are families -/

/-- **A family has a representative.** -/
theorem representative_ofFamily (f : OverloadFamily) :
    (Group.ofFamily f).representative = some f.representative := by
  obtain ⟨key, signature, members⟩ := f
  cases members <;> rfl

-- A group that is only opened has none.
example (key : Signature) : (Group.opened key).representative = none := rfl

/-- One more operator for the group of a family. -/
theorem add_ofFamily (f : OverloadFamily) (o : Operator) : (Group.ofFamily f).add surface o =
    Step.sure (Group.ofFamily <$> f.add surface o) := by
  obtain ⟨key, signature, members⟩ := f
  unfold Group.add OverloadFamily.add OverloadFamily.addWriter OverloadFamily.addPlain
  split <;> cases members <;>
    simp [Group.ofFamily, OverloadFamily.plain?, OverloadFamily.writer?, Members.plain?,
      Members.writer?, signature_eq]

/-- **A group that is opened gets its operator**, and is a family from then on. -/
theorem add_opened (key : Signature) (o : Operator) : (Group.opened key).add surface o =
    Step.sure (Group.ofFamily <$> OverloadFamily.first surface key o) := by
  unfold Group.add OverloadFamily.first
  split <;> simp [Group.opened, Group.ofFamily, OverloadFamily.plain?, OverloadFamily.writer?,
    Members.plain?, Members.writer?, signature_eq]

/-- The first group has the key, or the group is placed among the others. -/
theorem place_cons (key : Signature) (g : Group) (groups : List Group) :
    place key (g :: groups) = if g.key = key.text then (g :: groups, 0)
      else (g :: (place key groups).1, (place key groups).2 + 1) := by
  unfold place
  rw [List.findIdx?_cons]
  by_cases same : g.key = key.text
  · simp [same]
  · cases found : groups.findIdx? (·.key == key.text) <;> simp [same]

/-- **The invariant**: where the groups are families, they are families with one more operator. -/
theorem add_eq (key : Signature) (o : Operator) (families : List OverloadFamily) :
    add surface key o (families.map Group.ofFamily) =
      Step.sure (List.map Group.ofFamily <$> OverloadFamily.insert surface key o families) := by
  induction families with
  | nil => simp [add, place, add_opened, OverloadFamily.insert]
  | cons f families ih =>
    rw [OverloadFamily.insert, add, List.map_cons, place_cons]
    by_cases same : f.key = key.text
    · have same' : (Group.ofFamily f).key = key.text := same
      simp [same, same', add_ofFamily]
    · have same' : (Group.ofFamily f).key ≠ key.text := same
      have behind := congrArg ((Group.ofFamily f :: ·) <$> ·) ih
      simpa [same, same', add] using behind

theorem gather_eq (surface : Surface) (families : List OverloadFamily) (os : List Operator) :
    gather surface (families.map Group.ofFamily) os =
      Step.sure (List.map Group.ofFamily <$> OverloadFamily.gather surface families os) := by
  induction os generalizing families with
  | nil => simp [gather, OverloadFamily.gather]
  | cons o os ih => simp [gather, OverloadFamily.gather, signature_eq, add_eq, ih]

theorem settleOne_eq (policy : LoneWriter) (f : OverloadFamily) :
    settleOne policy (Group.ofFamily f) = Step.sure (OverloadFamily.settleOne policy f) := by
  have lacks : (Group.ofFamily f).plain.isNone = f.lacksPlain := rfl
  unfold settleOne OverloadFamily.settleOne
  rw [lacks]
  split
  · rw [representative_ofFamily, Step.ask_some, pure_bind]
    cases policy <;> simp [Group.ofFamily]
  · rfl

theorem settleLone_eq (policy : LoneWriter) (families : List OverloadFamily) :
    settleLone policy (families.map Group.ofFamily) =
      Step.sure (OverloadFamily.settleLone policy families) := by
  induction families with
  | nil => rfl
  | cons f families ih => simp [settleLone, OverloadFamily.settleLone, settleOne_eq, ih]

theorem prioritised_map (families : List OverloadFamily) :
    prioritised (families.map Group.ofFamily) =
      (OverloadFamily.prioritised families).map Group.ofFamily := by
  simp only [prioritised, OverloadFamily.prioritised, List.filter_map, List.map_append]
  rfl

/-- **The groups of a list of operators are its families**: gathering them fails or not
as it does for families, and does not stop. -/
theorem ofOperators_eq (policy : LoneWriter) (name : String) (surface : Surface)
    (os : List Operator) : ofOperators policy name surface os =
      Step.sure (List.map Group.ofFamily <$>
        OverloadFamily.ofOperators policy name surface os) := by
  have gathered := gather_eq surface [] os
  rw [List.map_nil] at gathered
  simp [ofOperators, gathered, settleLone_eq, prioritised_map, OverloadFamily.ofOperators]

/-! ## The calls of a group -/

def familyCall (surface : Surface) (g : Group) : Step FamilyCall :=
  match g.plain, g.writer with
  | some o, some w => do
    Step.sure (Run.tally .split)
    let layout ← Step.ask (slots w surface .kept)
    let writerCall ← callIn w surface layout
    let kept ← Step.ask (positions w layout)
    let plainCall ← callIn o surface layout
    pure (.byOutput (kept.out.getD 0) plainCall writerCall)
  | _, _ => do
    let o ← Step.ask g.representative
    let layout ← Step.ask (slots o surface .kept)
    let call ← callIn o surface layout
    pure (.always call)

def arm (surface : Surface) (g : Group) : Step Arm := do
  let call ← familyCall surface g
  pure { signature := g.signature, call }

theorem familyCall_eq (surface : Surface) (f : OverloadFamily) :
    familyCall surface (Group.ofFamily f) =
      Step.sure (FamilyCall.ofMembers surface f.members) := by
  have represented := representative_ofFamily f
  obtain ⟨key, signature, members⟩ := f
  cases members <;>
    simp_all [familyCall, FamilyCall.ofMembers, Group.ofFamily, OverloadFamily.plain?,
      OverloadFamily.writer?, OverloadFamily.representative, Members.plain?, Members.writer?,
      Members.representative, slots_eq, positions_eq, positionsIn, callIn_eq, Operator.call]

theorem arm_eq (surface : Surface) (f : OverloadFamily) :
    arm surface (Group.ofFamily f) = Step.sure (Binding.arm surface f) := by
  rw [arm, familyCall_eq]
  simp [Binding.arm, Group.ofFamily]

end OpBindings.Strict
