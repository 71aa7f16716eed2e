/-
OpBindings.Proofs.Gathering — the families of a list of operators, told without
gathering them.

Gathering goes through the operators once and changes families that are there
already. What comes of it can be told from the list alone: there is one family
for each key, its members are the first operator of either kind with that key,
and a note for each operator that comes after the first of its kind
(`IsGrouping`).

The two kinds are treated alike here: `member? writes` is the member of a
family of one kind, and `first? surface os writes key` is the one that it has to
be. That these are the same, for either kind and for every family, is what one
insertion keeps (`reflects_insert`), and so does gathering (`isGathered_gather`).
-/
import OpBindings.Proofs.Ledger
import OpBindings.Proofs.Tallies

namespace OpBindings

/-- The text of the signature without outputs, where it can be printed. -/
def Operator.key? (o : Operator) (surface : Surface) : Option String :=
  (o.signature surface .elided).toOption.map (·.text)

/-- Every signature of the operator can be printed. -/
def Operator.IsPrinted (o : Operator) (surface : Surface) : Prop :=
  ∀ outputs, ∃ s, o.signature surface outputs = .ok s

/-- The note that `o` is ignored, as `earlier` came before it. -/
def Note.ignoring (o earlier : Operator) (key : String) : Note :=
  if o.hasOutputs then .writerIgnored o.name earlier.name key
  else .plainIgnored o.name earlier.name key

/-- The note warns that some operator is ignored. -/
def Note.isIgnoring : Note → Bool
  | plainIgnored .. | writerIgnored .. => true
  | _ => false

/-- The step ignores no operator. -/
def Run.IgnoresNone {α : Type} (step : Run α) : Prop :=
  ∀ n ∈ step.journal.notes, n.isIgnoring = false

theorem Run.ignoresNone_pure {α : Type} (a : α) : (pure a : Run α).IgnoresNone := by
  simp [IgnoresNone, Journal.notes]

theorem Run.IgnoresNone.bind {α β : Type} {step : Run α} {next : α → Run β}
    (first : step.IgnoresNone) (rest : ∀ a, (next a).IgnoresNone) :
    (step >>= next).IgnoresNone := by
  intro n mem
  cases made : step.outcome with
  | error f =>
    rw [bind_of_error made] at mem
    exact first n mem
  | ok a =>
    rw [notes_bind made] at mem
    exact (List.mem_append.mp mem).elim (first n) (rest a n)

namespace OverloadFamily

variable {surface : Surface} {os before : List Operator} {o : Operator}

/-! ## Read off the operators -/

/-- The keys of the operators, each where it first appears. -/
def keysOf (surface : Surface) (os : List Operator) : List String :=
  (os.filterMap (·.key? surface)).eraseDups

/-- The first operator with the key that is a writer, or that is plain. -/
def first? (surface : Surface) (os : List Operator) (writes : Bool) (key : String) :
    Option Operator :=
  os.find? fun o => o.hasOutputs == writes && o.key? surface == some key

/-- The keys that no plain operator has. -/
def loneKeysOf (surface : Surface) (os : List Operator) : List String :=
  (keysOf surface os).filter fun key => (first? surface os false key).isNone

/-- The keys in the order in which their families are tried. -/
def prioritisedKeysOf (surface : Surface) (os : List Operator) : List String :=
  (keysOf surface os).filter (fun key => (first? surface os true key).isNone) ++
    (keysOf surface os).filter fun key => (first? surface os true key).isSome

/-- What is noted of the operator at a place: it is ignored if one of its kind
and key stands before it. -/
def ignoredAt? (surface : Surface) (os : List Operator) (o : Operator) (i : Nat) : Option Note :=
  (o.key? surface).bind fun key =>
    (first? surface (os.take i) o.hasOutputs key).map (Note.ignoring o · key)

/-- The notes of all operators that are ignored, in order. -/
def ignoredOf (surface : Surface) (os : List Operator) : List Note :=
  os.zipIdx.filterMap fun e => ignoredAt? surface os e.1 e.2

/-- The family of one key among the operators. -/
structure IsFamilyOf (surface : Surface) (os : List Operator) (f : OverloadFamily) : Prop where
  plain : f.plain? = first? surface os false f.key
  writer : f.writer? = first? surface os true f.key
  /-- At least one of the two is there. -/
  inhabited : f.plain?.isSome ∨ f.writer?.isSome
  kept : ∀ w, f.writer? = some w → w.signature surface .kept = .ok f.signature
  elided : f.writer? = none → ∃ o, f.plain? = some o ∧
    o.signature surface .elided = .ok f.signature ∧ f.signature.text = f.key

/-- **What grouping comes to**, and what it leaves in the journal. -/
structure IsGrouping (policy : LoneWriter) (surface : Surface) (os : List Operator)
    (run : Run (List OverloadFamily)) : Prop where
  /-- The first key without a plain operator is named, with its first writer. -/
  refused : policy = .refuse → ∀ key later, loneKeysOf surface os = key :: later →
    ∃ w, first? surface os true key = some w ∧ run.outcome = .error (.loneWriter w.name key)
  /-- Otherwise there is one family for each key. -/
  grouped : (policy = .refuse → loneKeysOf surface os = []) → ∃ families,
    run.outcome = .ok families ∧ families.map (·.key) = prioritisedKeysOf surface os ∧
      (families.map (·.key)).Nodup ∧ ∀ f ∈ families, f.IsFamilyOf surface os
  /-- Only the keys without a plain operator are counted. -/
  counted : (policy = .refuse → loneKeysOf surface os = []) → ∀ j : Journal,
    Journal.statistics (j ++ run.journal) = { j.statistics with
      loneWriters := j.statistics.loneWriters + (loneKeysOf surface os).length }
  /-- One note for each operator that is not the first of its kind and key. -/
  ignored : run.journal.notes.filter (·.isIgnoring) = ignoredOf surface os

/-! ## One operator more -/

variable {key : Signature} {f f' : OverloadFamily} {families families' : List OverloadFamily}

theorem key?_eq_some_iff {text : String} :
    o.key? surface = some text ↔ o.HasKey surface text := by
  unfold Operator.key? Operator.HasKey
  cases o.signature surface .elided <;> simp [Except.toOption]

theorem key?_eq_some (h : o.signature surface .elided = .ok key) :
    o.key? surface = some key.text := key?_eq_some_iff.mpr ⟨key, h, rfl⟩

theorem eraseDups_append_singleton (texts : List String) (text : String) :
    (texts ++ [text]).eraseDups =
      if text ∈ texts.eraseDups then texts.eraseDups else texts.eraseDups ++ [text] := by
  simp only [List.eraseDups_append, List.mem_eraseDups]
  by_cases old : text ∈ texts <;> simp [old, List.removeAll, List.eraseDups_cons]

/-- The key of one operator more is new where no operator had it. -/
theorem keysOf_append (h : o.signature surface .elided = .ok key) :
    keysOf surface (before ++ [o]) =
      if key.text ∈ keysOf surface before then keysOf surface before
      else keysOf surface before ++ [key.text] := by
  have one : [o].filterMap (·.key? surface) = [key.text] := by simp [key?_eq_some h]
  rw [keysOf, List.filterMap_append, one, eraseDups_append_singleton]
  rfl

/-- An operator is the first of its kind and key where there was none. -/
theorem first?_append (writes : Bool) (text : String) :
    first? surface (before ++ [o]) writes text = (first? surface before writes text).or
      (if o.hasOutputs = writes ∧ o.key? surface = some text then some o else none) := by
  rw [first?, List.find?_append, ← first?, List.find?_singleton]
  simp

/-- No operator has a key that is not there. -/
theorem first?_eq_none {text : String} (new : text ∉ keysOf surface before) (writes : Bool) :
    first? surface before writes text = none := by
  refine List.find?_eq_none.mpr fun p mem found => new (List.mem_eraseDups.mpr ?_)
  have keyed : p.key? surface = some text := by simpa using (Bool.and_eq_true_iff.mp found).2
  exact List.mem_filterMap.mpr ⟨p, mem, keyed⟩

/-- The member of one kind. -/
def member? (f : OverloadFamily) (writes : Bool) : Option Operator :=
  if writes then f.writer? else f.plain?

/-- An operator becomes the member of its kind where there was none. -/
theorem Grows.member?_eq (step : Grows surface o f f') (writes : Bool) : f'.member? writes =
    (f.member? writes).or (if o.hasOutputs = writes then some o else none) := by
  cases step with
  | plainIgnored kind earlier =>
    obtain ⟨p, hp⟩ := Option.isSome_iff_exists.mp earlier
    cases writes <;> simp [member?, kind, hp]
  | writerIgnored kind earlier =>
    obtain ⟨w, hw⟩ := Option.isSome_iff_exists.mp earlier
    cases writes <;> simp [member?, kind, hw]
  | plainJoins kind => 
    cases writes <;> simp [member?, kind, plain?, writer?, Members.plain?, Members.writer?]
  | writerJoins kind => 
    cases writes <;> simp [member?, kind, plain?, writer?, Members.plain?, Members.writer?]

theorem Opens.member?_eq (step : Opens surface key o f) (writes : Bool) :
    f.member? writes = if o.hasOutputs = writes then some o else none := by
  cases step with
  | plain kind =>
    cases writes <;> simp [member?, kind, plain?, writer?, Members.plain?, Members.writer?]
  | writer kind =>
    cases writes <;> simp [member?, kind, plain?, writer?, Members.plain?, Members.writer?]

theorem addPlain_spec (f : OverloadFamily) (o : Operator) :
    (∃ f', (f.addPlain o).outcome = .ok f') ∧ (f.addPlain o).journal.notes =
      (f.plain?.map fun earlier => Note.plainIgnored o.name earlier.name f.key).toList := by
  obtain ⟨key, shown, members⟩ := f
  cases members <;> exact ⟨⟨_, rfl⟩, rfl⟩

theorem addWriter_spec (printed : o.IsPrinted surface) (f : OverloadFamily) :
    (∃ f', (f.addWriter surface o).outcome = .ok f') ∧ (f.addWriter surface o).journal.notes =
      (f.writer?.map fun earlier => Note.writerIgnored o.name earlier.name f.key).toList := by
  obtain ⟨own, kept⟩ := printed .kept
  obtain ⟨key, shown, members⟩ := f
  cases members with
  | plain p =>
    rw [addWriter, kept]
    exact ⟨⟨_, rfl⟩, rfl⟩
  | writer earlier => exact ⟨⟨_, rfl⟩, rfl⟩
  | both p earlier => exact ⟨⟨_, rfl⟩, rfl⟩

/-- An operator that can be printed is taken, and noted where it is ignored. -/
theorem add_spec (printed : o.IsPrinted surface) (f : OverloadFamily) :
    (∃ f', (f.add surface o).outcome = .ok f') ∧ (f.add surface o).journal.notes =
      ((f.member? o.hasOutputs).map (Note.ignoring o · f.key)).toList := by
  unfold OverloadFamily.add
  cases kind : o.hasOutputs with
  | true => simpa [member?, Note.ignoring, kind] using addWriter_spec printed f
  | false => simpa [member?, Note.ignoring, kind] using addPlain_spec f o

theorem first_spec (printed : o.IsPrinted surface) (key : Signature) :
    (∃ f, (first surface key o).outcome = .ok f) ∧ (first surface key o).journal.notes = [] := by
  obtain ⟨own, kept⟩ := printed .kept
  unfold first
  split
  · rw [kept]
    exact ⟨⟨_, rfl⟩, rfl⟩
  · exact ⟨⟨_, rfl⟩, rfl⟩

/-! ## Insertion -/

/-- The members of the family are the first of their kinds with its key. -/
def Reflects (surface : Surface) (os : List Operator) (f : OverloadFamily) : Prop :=
  ∀ writes, f.member? writes = first? surface os writes f.key

theorem Grows.reflects (step : Grows surface o f f') (keyed : o.key? surface = some f.key)
    (h : f.Reflects surface before) : f'.Reflects surface (before ++ [o]) := by
  intro writes
  rw [step.member?_eq, first?_append, step.key_eq, h writes]
  simp [keyed]

theorem Opens.reflects (step : Opens surface key o f) (keyed : o.key? surface = some key.text)
    (new : ∀ writes, first? surface before writes key.text = none) :
    f.Reflects surface (before ++ [o]) := by
  intro writes
  rw [step.member?_eq, first?_append, step.key_eq, new writes]
  simp [keyed]

/-- A family of another key stays as it is. -/
theorem Reflects.append (h : f.Reflects surface before) (other : o.key? surface ≠ some f.key) :
    f.Reflects surface (before ++ [o]) := by
  intro writes
  rw [h writes, first?_append]
  simp [other]

/-- **One operator more** is inserted, and noted where it is ignored. -/
theorem reflects_insert (printed : o.IsPrinted surface)
    (hkey : o.signature surface .elided = .ok key) (distinct : (families.map (·.key)).Nodup)
    (h : ∀ f ∈ families, f.Reflects surface before)
    (new : key.text ∉ families.map (·.key) →
      ∀ writes, first? surface before writes key.text = none) :
    ∃ families', (insert surface key o families).outcome = .ok families' ∧
      (insert surface key o families).journal.notes =
        ((first? surface before o.hasOutputs key.text).map (Note.ignoring o · key.text)).toList ∧
      ∀ f ∈ families', f.Reflects surface (before ++ [o]) := by
  have keyed := key?_eq_some hkey
  -- the first family with the key grows; as keys are distinct, no later one has it
  induction families with
  | nil =>
    obtain ⟨⟨f, made⟩, quiet⟩ := first_spec printed key
    have none := new List.not_mem_nil
    refine ⟨[f], Run.outcome_bind.mpr ⟨f, made, rfl⟩, ?_, ?_⟩
    · rw [insert, Run.notes_bind_pure, quiet, none]
      rfl
    · simpa using (opens_of_first made).reflects keyed none
  | cons f families ih =>
    obtain ⟨head, tail⟩ := List.forall_mem_cons.mp h
    obtain ⟨apart, distinct⟩ := List.nodup_cons.mp distinct
    rw [insert]
    by_cases same : f.key = key.text
    · obtain ⟨⟨f', made⟩, noted⟩ := add_spec printed f
      rw [if_pos same]
      refine ⟨f' :: families, Run.outcome_bind.mpr ⟨f', made, rfl⟩, ?_, ?_⟩
      · rw [Run.notes_bind_pure, noted, head o.hasOutputs, same]
      · refine List.forall_mem_cons.mpr ⟨?_, fun g mem => (tail g mem).append ?_⟩
        · exact (grows_of_add made).reflects (same ▸ keyed) head
        · rw [keyed, ← same]
          exact fun equal => apart (List.mem_map.mpr ⟨g, mem, (Option.some.inj equal).symm⟩)
    · rw [if_neg same]
      obtain ⟨rest, made, noted, reflects⟩ := ih distinct tail fun absent =>
        new (List.not_mem_cons_of_ne_of_not_mem (Ne.symm same) absent)
      refine ⟨f :: rest, Run.outcome_bind.mpr ⟨rest, made, rfl⟩, ?_, ?_⟩
      · rw [Run.notes_bind_pure, noted]
      · refine List.forall_mem_cons.mpr ⟨head.append ?_, reflects⟩
        rw [keyed]
        exact fun equal => same (Option.some.inj equal).symm

/-! ## All operators -/

/-- The families are those of the operators `os`: one for each key, with the
first operators of either kind. -/
structure IsGathered (surface : Surface) (os : List Operator) (families : List OverloadFamily) :
    Prop where
  keys : families.map (·.key) = keysOf surface os
  distinct : (families.map (·.key)).Nodup
  reflects : ∀ f ∈ families, f.Reflects surface os

/-- **One insertion keeps the families those of the operators.** -/
theorem isGathered_insert (h : IsGathered surface before families) (printed : o.IsPrinted surface)
    (hkey : o.signature surface .elided = .ok key) (rest : List Operator) :
    ∃ families', (insert surface key o families).outcome = .ok families' ∧
      (insert surface key o families).journal.notes =
        (ignoredAt? surface (before ++ o :: rest) o before.length).toList ∧
      IsGathered surface (before ++ [o]) families' := by
  have new : key.text ∉ families.map (·.key) →
      ∀ writes, first? surface before writes key.text = none := by
    intro absent
    exact first?_eq_none (h.keys ▸ absent)
  obtain ⟨families', made, noted, reflects⟩ :=
    reflects_insert printed hkey h.distinct h.reflects new
  refine ⟨families', made, ?_, ?_, nodup_keys_insert h.distinct made, reflects⟩
  · rw [noted, ignoredAt?, key?_eq_some hkey, List.take_left]
    rfl
  · rw [keys_insert made, h.keys, keysOf_append hkey]

/-- **Gathering** what can be printed succeeds, and notes what it ignores. -/
theorem isGathered_gather {rest : List Operator} (h : IsGathered surface before families)
    (printed : ∀ o ∈ rest, o.IsPrinted surface) :
    ∃ families', (gather surface families rest).outcome = .ok families' ∧
      (gather surface families rest).journal.notes =
        (rest.zipIdx before.length).filterMap
          (fun e => ignoredAt? surface (before ++ rest) e.1 e.2) ∧
      IsGathered surface (before ++ rest) families' := by
  -- the places in the notes are those in the whole list, so `before` is carried along
  induction rest generalizing before families with
  | nil => exact ⟨families, rfl, rfl, (List.append_nil before).symm ▸ h⟩
  | cons o rest ih =>
    obtain ⟨head, tail⟩ := List.forall_mem_cons.mp printed
    obtain ⟨key, hkey⟩ := head .elided
    obtain ⟨next, made, noted, step⟩ := isGathered_insert h head hkey rest
    obtain ⟨families', gathered, more, whole⟩ := ih step tail
    have keyed : (Run.lift (o.signature surface .elided)).outcome = .ok key := hkey
    rw [List.append_assoc] at whole more
    refine ⟨families', ?_, ?_, whole⟩
    · exact Run.outcome_bind.mpr ⟨key, keyed, Run.outcome_bind.mpr ⟨next, made, gathered⟩⟩
    · rw [gather, Run.notes_bind keyed, Run.notes_bind made, noted, more, List.length_append,
        List.zipIdx_cons, List.filterMap_cons]
      cases ignoredAt? surface (before ++ o :: rest) o before.length <;> rfl

/-- The keys of the families where the member of a kind is as `q` says. -/
theorem IsGathered.filter_keysOf (h : IsGathered surface os families) (writes : Bool)
    (q : Option Operator → Bool) :
    (keysOf surface os).filter (fun key => q (first? surface os writes key)) =
      (families.filter fun f => q (f.member? writes)).map (·.key) := by
  rw [← h.keys, List.filter_map]
  refine congrArg _ (List.filter_congr fun f mem => ?_)
  rw [Function.comp, h.reflects f mem writes]

theorem IsGathered.loneKeysOf_eq (h : IsGathered surface os families) :
    loneKeysOf surface os = (families.filter (·.lacksPlain)).map (·.key) :=
  h.filter_keysOf false (·.isNone)

theorem IsGathered.prioritisedKeysOf_eq (h : IsGathered surface os families) :
    (prioritised families).map (·.key) = prioritisedKeysOf surface os := by
  rw [prioritised, List.map_append, prioritisedKeysOf, h.filter_keysOf true (·.isNone),
    h.filter_keysOf true (·.isSome)]
  rfl

theorem Reflects.isFamilyOf (h : f.Reflects surface os) (made : f.IsOf surface os) :
    f.IsFamilyOf surface os where
  plain := h false
  writer := h true
  inhabited := by
    obtain ⟨key, shown, members⟩ := f
    cases members <;> simp [plain?, writer?, Members.plain?, Members.writer?]
  kept w hw := (made.writer w hw).2.2.2
  elided none := by
    obtain ⟨o, plain⟩ : ∃ o, f.plain? = some o := by
      obtain ⟨key, shown, members⟩ := f
      cases members with
      | plain o => exact ⟨o, rfl⟩
      | writer w => cases none
      | both o w => cases none
    obtain ⟨-, -, s, printed, text⟩ := made.plain o plain
    have alone := made.alone none o plain
    rw [alone] at printed
    cases printed
    exact ⟨o, plain, alone, text⟩

/-! ## Lone writers -/

/-- A family without a plain operator has a writer, which stands in for it. -/
theorem exists_writer_of_lacksPlain (lacks : f.lacksPlain = true) :
    ∃ w, f.writer? = some w ∧ f.representative = w := by
  obtain ⟨key, shown, members⟩ := f
  cases members with
  | plain o => cases lacks
  | writer w => exact ⟨w, rfl, rfl⟩
  | both o w => cases lacks

/-- The first lone writer is refused. -/
theorem settleLone_refuse (families : List OverloadFamily) : settleLone .refuse families =
    match families.find? (·.lacksPlain) with
    | some f => Run.fail (.loneWriter f.representative.name f.key)
    | none => Run.ok () := by
  induction families with
  | nil => rfl
  | cons f families ih =>
    rw [settleLone, settleOne]
    cases lone : f.lacksPlain with
    | true =>
      rw [List.find?_cons_of_pos lone]
      rfl
    | false =>
      rw [List.find?_cons_of_neg (by simp [lone]), ← ih]
      rfl

/-- The writer of the first key without a plain operator is refused. -/
theorem IsGathered.settleLone_refuse_eq (h : IsGathered surface os families) {text : String}
    {later : List String} (lone : loneKeysOf surface os = text :: later) :
    ∃ w, first? surface os true text = some w ∧
      (settleLone .refuse families).outcome = .error (.loneWriter w.name text) := by
  rw [h.loneKeysOf_eq] at lone
  obtain ⟨f, fs, lacking, rfl, -⟩ := List.map_eq_cons_iff.mp lone
  have found : families.find? (·.lacksPlain) = some f := by
    rw [← List.head?_filter, lacking]
    rfl
  obtain ⟨w, writer, same⟩ := exists_writer_of_lacksPlain (List.find?_some found)
  have first := (h.reflects f (List.mem_of_find?_eq_some found) true).symm.trans writer
  refine ⟨w, first, ?_⟩
  rw [settleLone_refuse, found, ← same]
  rfl

/-- Where no lone writer is refused, each of them is counted. -/
theorem makes_settleLone {policy : LoneWriter}
    (free : policy = .refuse → families.filter (·.lacksPlain) = []) :
    (settleLone policy families).Makes
      (List.replicate (families.filter (·.lacksPlain)).length .loneWriter) () := by
  rw [← List.countP_eq_length_filter]
  cases policy with
  | refuse =>
    have none : loneCount families = 0 := by
      rw [loneCount, List.countP_eq_length_filter, free rfl]
      rfl
    exact makes_settleLone_refuse.mpr ⟨none, by rw [← loneCount, none]; rfl⟩
  | accept => exact makes_settleLone_accept.mpr rfl

theorem ignoresNone_settleOne (policy : LoneWriter) (f : OverloadFamily) :
    (settleOne policy f).IgnoresNone := by
  unfold settleOne
  cases f.lacksPlain with
  | true =>
    cases policy with
    | refuse => simp [Run.IgnoresNone, Run.fail, Journal.notes]
    | accept => exact List.forall_mem_singleton.mpr rfl
  | false => exact Run.ignoresNone_pure ()

theorem ignoresNone_settleLone (policy : LoneWriter) (families : List OverloadFamily) :
    (settleLone policy families).IgnoresNone := by
  induction families with
  | nil => exact Run.ignoresNone_pure ()
  | cons f families ih => exact (ignoresNone_settleOne policy f).bind fun _ => ih

/-! ## Grouping -/

theorem isIgnoring_of_mem_ignoredOf {n : Note} (mem : n ∈ ignoredOf surface os) :
    n.isIgnoring = true := by
  obtain ⟨⟨o, i⟩, -, noted⟩ := List.mem_filterMap.mp mem
  obtain ⟨key, -, noted⟩ := Option.bind_eq_some_iff.mp noted
  obtain ⟨earlier, -, rfl⟩ := Option.map_eq_some_iff.mp noted
  unfold Note.ignoring
  split <;> rfl

theorem foldl_add_loneWriters (n : Nat) (before : Statistics) :
    (List.replicate n Tally.loneWriter).foldl Statistics.add before =
      { before with loneWriters := before.loneWriters + n } := by
  induction n generalizing before with
  | zero => rfl
  | succ n ih =>
    rw [List.replicate_succ, List.foldl_cons, ih]
    simp [Statistics.add, Nat.add_comm, Nat.add_left_comm]

/-- **Grouping is what can be read off the operators.** -/
theorem isGrouping_ofOperators (policy : LoneWriter) (name : String)
    (printed : ∀ o ∈ os, o.IsPrinted surface) :
    IsGrouping policy surface os (ofOperators policy name surface os) := by
  have start : IsGathered surface [] [] := ⟨rfl, List.nodup_nil, by simp⟩
  obtain ⟨gathered, made, noted, whole⟩ := isGathered_gather start printed
  have noted : (gather surface [] os).journal.notes = ignoredOf surface os := noted
  have whole : IsGathered surface os gathered := whole
  have free : (policy = .refuse → loneKeysOf surface os = []) →
      (ofOperators policy name surface os).Makes
        (List.replicate (loneKeysOf surface os).length .loneWriter) (prioritised gathered) := by
    intro free
    rw [whole.loneKeysOf_eq, List.map_eq_nil_iff] at free
    rw [whole.loneKeysOf_eq, List.length_map]
    exact makes_ofOperators.mpr ⟨gathered, made, makes_settleLone free, rfl⟩
  constructor
  · intro refuse key later lone
    subst refuse
    obtain ⟨w, first, refused⟩ := whole.settleLone_refuse_eq lone
    refine ⟨w, first, ?_⟩
    rw [ofOperators, Run.bind_of_ok made, Run.bind_of_error refused]
  · intro refuse
    refine ⟨prioritised gathered, (free refuse).1, whole.prioritisedKeysOf_eq, ?_, fun f mem => ?_⟩
    · exact ((prioritised_perm gathered).map _).nodup_iff.mpr whole.distinct
    · have mem := mem_prioritised.mp mem
      exact (whole.reflects f mem).isFamilyOf (isOf_gather (by simp) (fun _ h => h) made f mem)
  · intro refuse j
    rw [Journal.statistics, Journal.tallies_append, (free refuse).2, Statistics.ofTallies,
      List.foldl_append, foldl_add_loneWriters]
    rfl
  · have grouped : (Run.note (.grouped name surface gathered.length)).IgnoresNone :=
      List.forall_mem_singleton.mpr rfl
    have quiet := (ignoresNone_settleLone policy gathered).bind fun _ =>
      grouped.bind fun _ => Run.ignoresNone_pure (prioritised gathered)
    rw [ofOperators, Run.notes_bind made, List.filter_append, noted,
      List.filter_eq_self.mpr fun n mem => isIgnoring_of_mem_ignoredOf mem,
      List.filter_eq_nil_iff.mpr fun n mem => Bool.not_eq_true _ ▸ quiet n mem, List.append_nil]

/-- A plain operator, its writer, the plain operator again, and a writer with a
key of its own. -/
def negations : List Operator :=
  let self : Param := ⟨"self", "Tensor", false, none, none, false, none⟩
  let scale : Param := ⟨"scale", "Scalar", false, none, none, false, none⟩
  let out : Param := ⟨"out", "Tensor", false, none, some "a!", true, none⟩
  let function : CallKinds := { function := true }
  [⟨"neg", "neg(Tensor self) -> Tensor", [self], [⟨none, "Tensor", none⟩], function, none⟩,
    ⟨"neg.out", "neg.out(Tensor self, *, Tensor(a!) out) -> Tensor(a!)", [self, out],
      [⟨none, "Tensor", some "a!"⟩], function, none⟩,
    ⟨"neg.again", "neg.again(Tensor self) -> Tensor", [self], [⟨none, "Tensor", none⟩], function,
      none⟩,
    ⟨"neg.scaled_out", "neg.scaled_out(Tensor self, Scalar scale, *, Tensor(a!) out) -> Tensor(a!)",
      [self, scale, out], [⟨none, "Tensor", some "a!"⟩], function, none⟩]

theorem isGrouping_negations : (∀ o ∈ negations, o.IsPrinted .torch) ∧
    (ofOperators .refuse "neg" .torch negations).outcome =
      .error (.loneWriter "neg.scaled_out" "neg(Tensor input, Scalar scale)") ∧
    ∃ families, (ofOperators .accept "neg" .torch negations).outcome = .ok families ∧
      families.map (·.key) = ["neg(Tensor input)", "neg(Tensor input, Scalar scale)"] ∧
      (ofOperators .accept "neg" .torch negations).journal.notes.filter (·.isIgnoring) =
        [.plainIgnored "neg.again" "neg" "neg(Tensor input)"] := by
  have printed : ∀ o ∈ negations, o.IsPrinted .torch := by
    have each : ∀ o ∈ negations, (∃ s, o.signature .torch .elided = .ok s) ∧
        ∃ s, o.signature .torch .kept = .ok s := by
      simp only [negations, List.forall_mem_cons]
      exact ⟨⟨⟨_, rfl⟩, _, rfl⟩, ⟨⟨_, rfl⟩, _, rfl⟩, ⟨⟨_, rfl⟩, _, rfl⟩, ⟨⟨_, rfl⟩, _, rfl⟩,
        by simp⟩
    intro o mem outputs
    cases outputs with
    | elided => exact (each o mem).1
    | kept => exact (each o mem).2
  have lone : loneKeysOf .torch negations = ["neg(Tensor input, Scalar scale)"] := by rfl
  have strict := isGrouping_ofOperators .refuse "neg" printed
  have lenient := isGrouping_ofOperators .accept "neg" printed
  obtain ⟨w, first, refused⟩ := strict.refused rfl _ _ lone
  obtain ⟨families, made, keys, -⟩ := lenient.grouped nofun
  cases (Option.some.inj first : _ = w)
  exact ⟨printed, refused, families, made, keys.trans (by rfl), lenient.ignored.trans (by rfl)⟩

end OverloadFamily

end OpBindings
