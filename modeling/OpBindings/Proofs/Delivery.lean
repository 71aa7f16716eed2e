/-
OpBindings.Proofs.Delivery — units are handed over when all of them are there,
in order, until the first refusal.

An outlet has a state of any kind, and each call may be refused, with any
fault. `Outlet.recorded` does what the outlet does and also keeps the calls
with their answers, so that a statement can speak of the calls of a run.
`Answered` relates the texts to hand over, the calls that were made of them and
what came of it; it is closed under one step after the other, which carries it
from a single write to a whole run (`Outlet.generate_delivers`).
-/
import OpBindings.Outlet
import OpBindings.Proofs.BoundTable

namespace OpBindings

/-! ## Calls and their answers -/

/-- A call of an outlet: the name and the contents, and the answer. -/
structure Call where
  text : String × String
  answer : Except Fault Unit

/-- Texts are handed over one after the other, until the first refusal. -/
inductive Answered {α : Type} : List (String × String) → List Call → Except Fault α → Prop where
  | all (a : α) : Answered [] [] (.ok a)
  | taken {text texts calls outcome} (rest : Answered texts calls outcome) :
    Answered (text :: texts) (⟨text, .ok ()⟩ :: calls) outcome
  | refused (text texts) (f : Fault) :
    Answered (text :: texts) [⟨text, .error f⟩] (.error f)

namespace Answered

variable {α β : Type} {texts more : List (String × String)} {calls others : List Call}
  {outcome : Except Fault α} {last : Except Fault β} {a : α} {f : Fault}

/-- After texts that were all taken, further texts are handed over. -/
theorem append (first : Answered texts calls (.ok a)) (rest : Answered more others last) :
    Answered (texts ++ more) (calls ++ others) last := by
  generalize accepted : Except.ok a = outcome at first
  induction first with
  | all => exact rest
  | taken _ ih => exact .taken (ih accepted)
  | refused => cases accepted

/-- After a refusal, nothing more is handed over. -/
theorem append_of_error (first : Answered texts calls (.error f : Except Fault α))
    (more : List (String × String)) :
    Answered (texts ++ more) calls (.error f : Except Fault β) := by
  generalize failed : Except.error f = outcome at first
  induction first with
  | all => cases failed
  | taken _ ih => exact .taken (ih failed)
  | refused text texts f =>
    cases failed
    exact .refused ..

theorem isPrefix (h : Answered texts calls outcome) : calls.map (·.text) <+: texts := by
  induction h with
  | all => exact List.nil_prefix
  | taken _ ih => exact List.cons_prefix_cons.mpr ⟨rfl, ih⟩
  | refused text texts => exact List.prefix_append [text] texts

/-- Where no call was refused, every text was handed over. -/
theorem texts_eq (h : Answered texts calls outcome) (accepted : ∀ c ∈ calls, c.answer = .ok ()) :
    calls.map (·.text) = texts ∧ ∃ a, outcome = .ok a := by
  induction h with
  | all a => exact ⟨rfl, a, rfl⟩
  | taken _ ih =>
    obtain ⟨same, ok⟩ := ih fun c mem => accepted c (List.mem_cons_of_mem _ mem)
    exact ⟨congrArg _ same, ok⟩
  | refused => cases accepted _ List.mem_cons_self

/-- The call that was refused is the last one, and its fault is what came of it. -/
theorem length_eq (h : Answered texts calls outcome) {k : Nat} {c : Call}
    (made : calls[k]? = some c) (refused : c.answer = .error f) : calls.length = k + 1 ∧ outcome = .error f := by
  induction h generalizing k with
  | all => cases made
  | taken _ ih =>
    cases k with
    | zero =>
      cases made
      cases refused
    | succ k =>
      obtain ⟨length, failed⟩ := ih made
      exact ⟨congrArg Nat.succ length, failed⟩
  | refused =>
    cases k with
    | zero =>
      cases made
      cases refused
      exact ⟨rfl, rfl⟩
    | succ k => cases made

end Answered

/-! ## Steps in a state -/

namespace EffectRun

variable {σ α β : Type}

/-- What a step does in a state: the run, and the state after it. -/
def inState (step : EffectRun (StateM σ) α) (s : σ) : Run α × σ := (step.run.run s).run

@[simp] theorem inState_lift (first : Run α) (s : σ) :
    (lift first : EffectRun (StateM σ) α).inState s = (first, s) := rfl

@[simp] theorem inState_pure (a : α) (s : σ) :
    (pure a : EffectRun (StateM σ) α).inState s = (Run.ok a, s) := rfl

/-- The second step starts in the state that the first left. -/
theorem inState_bind (step : EffectRun (StateM σ) α) (next : α → EffectRun (StateM σ) β) (s : σ) :
    (step >>= next).inState s = match (step.inState s).1.outcome with
      | .error f => (⟨(step.inState s).1.journal, .error f⟩, (step.inState s).2)
      | .ok a =>
        let rest := (next a).inState (step.inState s).2
        (⟨(step.inState s).1.journal ++ rest.1.journal, rest.1.outcome⟩, rest.2) := by
  -- `bind` of states is opened by its definition: the outcome decides what is left to run
  change (((match (step.inState s).1.outcome with
    | .error f => pure ⟨(step.inState s).1.journal, .error f⟩
    | .ok a => do
      let second ← (next a).run
      pure ⟨(step.inState s).1.journal ++ second.journal, second.outcome⟩) :
        StateM σ (Run β)).run (step.inState s).2).run = _
  cases (step.inState s).1.outcome <;> rfl

/-- In every state, `kept` does what `plain` does and keeps the calls that are
made, which hand over the texts. -/
def Delivers (kept : EffectRun (StateM (σ × List Call)) α) (plain : EffectRun (StateM σ) α)
    (texts : List (String × String)) : Prop :=
  ∀ s before, ∃ run after calls, plain.inState s = (run, after) ∧
    kept.inState (s, before) = (run, after, before ++ calls) ∧ Answered texts calls run.outcome

theorem Delivers.lift {first : Run α} {a : α} (ok : first.outcome = .ok a) :
    (.lift first : EffectRun (StateM (σ × List Call)) α).Delivers (.lift first) [] :=
  fun s before => ⟨first, s, [], rfl, by simp, ok ▸ .all a⟩

theorem Delivers.bind {kept : EffectRun (StateM (σ × List Call)) α}
    {plain : EffectRun (StateM σ) α} {keptNext : α → EffectRun (StateM (σ × List Call)) β}
    {plainNext : α → EffectRun (StateM σ) β} {texts more : List (String × String)}
    (first : Delivers kept plain texts) (rest : ∀ a, Delivers (keptNext a) (plainNext a) more) :
    Delivers (kept >>= keptNext) (plain >>= plainNext) (texts ++ more) := by
  intro s before
  obtain ⟨run, after, calls, plainly, keeping, answered⟩ := first s before
  rw [inState_bind, inState_bind, plainly, keeping]
  cases outcome : run.outcome with
  | error f =>
    exact ⟨_, after, calls, rfl, rfl, (outcome ▸ answered).append_of_error more⟩
  | ok a =>
    obtain ⟨second, last, others, plainly, keeping, further⟩ := rest a after (before ++ calls)
    simp only [plainly, keeping]
    exact ⟨_, last, calls ++ others, rfl, by rw [List.append_assoc],
      (outcome ▸ answered).append further⟩

end EffectRun

/-! ## Handing over -/

namespace Outlet

variable {σ : Type}

/-- The outlet that also keeps every call, in order. -/
def recorded (outlet : Outlet (StateM σ)) : Outlet (StateM (σ × List Call)) where
  write name contents := ⟨fun (s, calls) =>
    let (run, after) := (outlet.write name contents).inState s
    (run, after, calls ++ [⟨(name, contents), run.outcome⟩])⟩

variable (outlet : Outlet (StateM σ))

theorem delivers_write (name contents : String) :
    (outlet.recorded.write name contents).Delivers (outlet.write name contents)
      [(name, contents)] := by
  intro s before
  refine ⟨((outlet.write name contents).inState s).1, _,
    [⟨(name, contents), ((outlet.write name contents).inState s).1.outcome⟩], rfl, rfl, ?_⟩
  cases ((outlet.write name contents).inState s).1.outcome with
  | ok => exact .taken (.all ())
  | error f => exact .refused _ _ f

theorem delivers_handOver (u : BindingUnit) :
    (outlet.recorded.handOver u).Delivers (outlet.handOver u) u.files :=
  (outlet.delivers_write _ _).bind fun _ => (outlet.delivers_write _ _).bind fun _ => .lift rfl

theorem delivers_handOverAll (units : List BindingUnit) :
    (outlet.recorded.handOverAll units).Delivers (outlet.handOverAll units)
      (units.flatMap (·.files)) := by
  induction units with
  | nil => exact .lift rfl
  | cons u units ih => exact (outlet.delivers_handOver u).bind fun _ => ih

end Outlet

/-! ## A whole run -/

/-- The files of all units, in order. -/
def Generated.files (g : Generated) : List (String × String) := g.units.flatMap (·.files)

/-- The units are those of the chosen surfaces, in the order of the choice. -/
theorem Generated.surfaces_of_ofTable {settings : Settings} {table : Run (List Record)}
    {g : Generated} (made : (ofTable settings table).outcome = .ok g) :
    g.units.map (·.surface) = settings.surfaces := by
  obtain ⟨bound, bindings, made⟩ := Run.outcome_bind.mp made
  obtain ⟨_, -, made⟩ := Run.outcome_bind.mp made
  cases made
  obtain ⟨records, -, bindings⟩ := Run.outcome_bind.mp bindings
  obtain ⟨operators, -, bindings⟩ := Run.outcome_bind.mp bindings
  obtain ⟨_, -, bindings⟩ := Run.outcome_bind.mp bindings
  obtain ⟨chosen, -, bindings⟩ := Run.outcome_bind.mp bindings
  obtain ⟨routing, -, bindings⟩ := Run.outcome_bind.mp bindings
  have each : List.Forall₂ (fun surface b => b.surface = surface) settings.surfaces bound := by
    refine (Run.outcome_each.mp bindings).imp fun surface b bound => ?_
    obtain ⟨_, -, bound⟩ := Run.outcome_bind.mp bound
    obtain ⟨_, -, bound⟩ := Run.outcome_bind.mp bound
    cases bound
    rfl
  rw [List.map_map]
  refine List.forall₂_eq_eq_eq ▸ List.forall₂_map_left_iff.mpr ?_
  exact each.flip

/-- **What a run hands over.** It makes `calls` on its outlet and has an outcome. -/
structure IsDelivery (settings : Settings) (table : Run (List Record)) (calls : List Call)
    (outcome : Except Fault Statistics) : Prop where
  /-- A generation that fails hands over nothing. -/
  failed : ∀ f, (Generated.ofTable settings table).outcome = .error f →
    calls = [] ∧ outcome = .error f
  /-- The surfaces stand in the order of the choice. -/
  surfaces : ∀ g, (Generated.ofTable settings table).outcome = .ok g →
    g.units.map (·.surface) = settings.surfaces
  inOrder : ∀ g, (Generated.ofTable settings table).outcome = .ok g →
    calls.map (·.text) <+: g.files
  taken : ∀ g, (Generated.ofTable settings table).outcome = .ok g →
    (∀ c ∈ calls, c.answer = .ok ()) →
    calls.map (·.text) = g.files ∧ outcome = .ok g.statistics
  refused : ∀ g, (Generated.ofTable settings table).outcome = .ok g →
    ∀ k c f, calls[k]? = some c → c.answer = .error f →
      calls.length = k + 1 ∧ outcome = .error f

namespace Outlet

variable {settings : Settings} {table : Run (List Record)}

/-- A generation that fails leaves every outlet as it was. -/
theorem generate_of_error {f : Fault}
    (failed : (Generated.ofTable settings table).outcome = .error f) {σ : Type}
    (outlet : Outlet (StateM σ)) (s : σ) :
    (outlet.generate settings table).inState s =
      (⟨(Generated.ofTable settings table).journal, .error f⟩, s) := by
  rw [generate, EffectRun.inState_bind, EffectRun.inState_lift]
  simp only [failed]

/-- After a generation that succeeded, all its units are handed over. -/
theorem generate_of_ok {g : Generated} (made : (Generated.ofTable settings table).outcome = .ok g)
    {σ : Type} (outlet : Outlet (StateM σ)) (s : σ) :
    (outlet.generate settings table).inState s =
      let handed := (outlet.handOverAll g.units).inState s
      (⟨(Generated.ofTable settings table).journal ++ handed.1.journal,
        handed.1.outcome.map fun _ => g.statistics⟩, handed.2) := by
  rw [generate, EffectRun.inState_bind, EffectRun.inState_lift]
  simp only [made, EffectRun.inState_bind]
  cases ((outlet.handOverAll g.units).inState s).1.outcome with
  | error f => rfl
  | ok =>
    simp only [EffectRun.inState_pure, Run.ok, List.append_nil]
    rfl

theorem isDelivery_of_error {f : Fault}
    (failed : (Generated.ofTable settings table).outcome = .error f) :
    IsDelivery settings table [] (.error f) where
  failed _ same := ⟨rfl, congrArg _ (Except.error.inj (failed.symm.trans same))⟩
  surfaces _ made := absurd (failed.symm.trans made) nofun
  inOrder _ made := absurd (failed.symm.trans made) nofun
  taken _ made := absurd (failed.symm.trans made) nofun
  refused _ made := absurd (failed.symm.trans made) nofun

theorem isDelivery_of_answered {g : Generated} {calls : List Call} {outcome : Except Fault Unit}
    (made : (Generated.ofTable settings table).outcome = .ok g)
    (answered : Answered g.files calls outcome) :
    IsDelivery settings table calls (outcome.map fun _ => g.statistics) where
  failed _ failed := absurd (made.symm.trans failed) nofun
  surfaces _ made := Generated.surfaces_of_ofTable made
  inOrder g' made' := by
    cases made.symm.trans made'
    exact answered.isPrefix
  taken g' made' accepted := by
    cases made.symm.trans made'
    obtain ⟨texts, -, rfl⟩ := answered.texts_eq accepted
    exact ⟨texts, rfl⟩
  refused g' made' k c f called refused := by
    obtain ⟨length, rfl⟩ := answered.length_eq called refused
    exact ⟨length, rfl⟩

/-- **All or nothing, in order.** On any outlet a run makes the calls that
`IsDelivery` tells, and to keep them changes nothing that it does. Texts in
memory are left as they were by a generation that fails. -/
theorem generate_delivers (settings : Settings) (table : Run (List Record)) :
    (∀ {σ : Type} (outlet : Outlet (StateM σ)) (s : σ), ∃ run after calls,
      (outlet.generate settings table).inState s = (run, after) ∧
      (outlet.recorded.generate settings table).inState (s, []) = (run, after, calls) ∧
      IsDelivery settings table calls run.outcome) ∧
    ∀ (texts : Texts) f, (Generated.ofTable settings table).outcome = .error f →
      ((Texts.outlet.generate settings table).inState texts).2 = texts := by
  refine ⟨fun outlet s => ?_, fun texts f failed => ?_⟩
  · cases generated : (Generated.ofTable settings table).outcome with
    | error f =>
      exact ⟨_, s, [], generate_of_error generated outlet s,
        generate_of_error generated outlet.recorded (s, []), isDelivery_of_error generated⟩
    | ok g =>
      obtain ⟨run, after, calls, plainly, keeping, answered⟩ :=
        outlet.delivers_handOverAll g.units s []
      rw [generate_of_ok generated, generate_of_ok generated, plainly, keeping]
      exact ⟨_, after, calls, rfl, rfl, isDelivery_of_answered generated answered⟩
  · rw [generate_of_error failed]

/-- An outlet that takes two texts and refuses every other. -/
def twoTexts : Outlet (StateM Nat) where
  write _ _ := ⟨fun n => (if n < 2 then pure () else .fail (.io "" .isDirectory), n + 1)⟩

theorem generate_delivers_twoTexts :
    (∃ g run after calls, (Generated.ofTable {} (pure [])).outcome = .ok g ∧
      (twoTexts.recorded.generate {} (pure [])).inState (0, []) = (run, after, calls) ∧
      calls.length = 3 ∧ calls.map (·.text) <+: g.files ∧
      run.outcome = .error (.io "" .isDirectory)) ∧
    (Generated.ofTable {} (pure [{}])).outcome = .error (.record 0 .noDeclaration) ∧
    ((Texts.outlet.generate {} (pure [{}])).inState [("a", "b")]).2 = [("a", "b")] := by
  have failed : (Generated.ofTable {} (pure [{}])).outcome = .error (.record 0 .noDeclaration) := by
    rfl
  refine ⟨?_, failed, (generate_delivers {} (pure [{}])).2 [("a", "b")] _ failed⟩
  obtain ⟨run, after, calls, -, keeping, delivery⟩ := (generate_delivers {} (pure [])).1 twoTexts 0
  obtain ⟨g, made, -, units⟩ := Generated.exists_ofTable {} .nil .nil nofun (by rfl)
  have third : ∃ c, calls[2]? = some c ∧ c.answer = .error (.io "" .isDirectory) := by
    have kept := congrArg (·.2.2[2]?) keeping
    rw [generate_of_ok made, units] at kept
    exact ⟨_, kept.symm, rfl⟩
  obtain ⟨c, third, refused⟩ := third
  obtain ⟨length, outcome⟩ := delivery.refused g made 2 c _ third refused
  exact ⟨g, run, after, calls, made, keeping, length, delivery.inOrder g made, outcome⟩

end Outlet

end OpBindings
