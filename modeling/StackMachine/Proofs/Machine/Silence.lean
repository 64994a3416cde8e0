import StackMachine.Proofs.Machine.Loading
import StackMachine.Proofs.Machine.Reply

/-!
# Operations without the warn flag

`silenced` takes the warn flag away from a machine, and the diagnostics from a log. What an
operation does on a machine with the flag, it does on the silenced machine, too, and the log of the
second run is the silenced log of the first. That is `Operation.Mutes` for the operations on a
machine, ending in `Machine.reply_mutes`, and `Attempt.Mutes` for those that make one, ending in
`Loader.builtin_mutes`.

Others may change the files at any report that is made in both runs. They are `unaware`: they cannot
take notice of the flag.
-/

namespace StackMachine

variable {mw : Meanwhile}

/-! ### Silence -/

namespace Event

/-- The event as it is reported without the flag, if it is reported then. -/
def silenced? : Event → Option Event
  | oddity _ _ | stoppedWithError _ _ => none
  | loading kind path _ => some (loading kind path false)
  | e => some e

/-- The event up to the flag in it. -/
def unflagged : Event → Event
  | loading kind path _ => loading kind path false
  | e => e

/-- An event is left out, or else only the flag is taken from it. What is left out is a warning. -/
theorem silenced?_cases (e : Event) :
    (e.silenced? = none ∧ e.level = .warn) ∨ e.silenced? = some e.unflagged := by
  cases e with
  | oddity => exact .inl ⟨rfl, rfl⟩
  | stoppedWithError => exact .inl ⟨rfl, rfl⟩
  | _ => exact .inr rfl

theorem silenced?_unflagged {e quiet : Event} (h : e.silenced? = some quiet) :
    quiet.silenced? = some quiet := by
  cases e with
  | oddity => cases h
  | stoppedWithError => cases h
  | _ =>
    cases h
    rfl

@[simp] theorem level_unflagged (e : Event) : e.unflagged.level = e.level := by
  cases e <;> rfl

/-- A warning does not mention the flag. -/
theorem unflagged_of_warn {e : Event} (h : e.level = .warn) : e.unflagged = e := by
  cases e with
  | loading => cases h
  | _ => rfl

/-- Among the events that are no warnings, silence changes no more than the flag. -/
theorem filter_silenced (events : List Event) :
    (events.filterMap silenced?).filter (·.level ≠ .warn) =
      (events.filter (·.level ≠ .warn)).map unflagged := by
  induction events with
  | nil => rfl
  | cons e events ih =>
    rcases e.silenced?_cases with ⟨hnone, hwarn⟩ | hsome
    · rw [List.filterMap_cons_none hnone, ih, List.filter_cons_of_neg (by simp [hwarn])]
    · rw [List.filterMap_cons_some hsome]
      by_cases hwarn : e.level = .warn
      · rw [List.filter_cons_of_neg (by simp [hwarn]), ih,
          List.filter_cons_of_neg (by simp [hwarn])]
      · rw [List.filter_cons_of_pos (by simpa using hwarn), ih,
          List.filter_cons_of_pos (by simpa using hwarn), List.map_cons]

/-- Of the warnings, silence leaves out some and changes none. -/
theorem sublist_silenced (events : List Event) :
    ((events.filterMap silenced?).filter (·.level = .warn)).Sublist
      (events.filter (·.level = .warn)) := by
  induction events with
  | nil => exact .slnil
  | cons e events ih =>
    rcases e.silenced?_cases with ⟨hnone, hwarn⟩ | hsome
    · rw [List.filterMap_cons_none hnone, List.filter_cons_of_pos (by simp [hwarn])]
      exact ih.cons e
    · rw [List.filterMap_cons_some hsome]
      by_cases hwarn : e.level = .warn
      · rw [unflagged_of_warn hwarn, List.filter_cons_of_pos (by simp [hwarn]),
          List.filter_cons_of_pos (by simp [hwarn])]
        exact ih.cons_cons e
      · rw [List.filter_cons_of_neg (by simp [hwarn]), List.filter_cons_of_neg (by simp [hwarn])]
        exact ih

/-- None is left out of events that are all reported without the flag. -/
theorem warnings_silenced {events : List Event} (h : ∀ e ∈ events, e.silenced? ≠ none) :
    (events.filterMap silenced?).filter (·.level = .warn) = events.filter (·.level = .warn) := by
  induction events with
  | nil => rfl
  | cons e events ih =>
    obtain ⟨he, hrest⟩ := List.forall_mem_cons.mp h
    rcases e.silenced?_cases with ⟨hnone, -⟩ | hsome
    · exact absurd hnone he
    · rw [List.filterMap_cons_some hsome, List.filter_cons, List.filter_cons, ih hrest,
        level_unflagged]
      split
      · next hwarn => rw [unflagged_of_warn (of_decide_eq_true hwarn)]
      · rfl

end Event

/-- Others who take no notice of the flag: they are at work when something is reported that is
reported without it, too, and then see what is reported without it. -/
def Meanwhile.unaware (mw : Meanwhile) : Meanwhile := fun e files =>
  match e.silenced? with
  | some quiet => mw quiet files
  | none => files

def ReferenceMachine.silenced (machine : ReferenceMachine) : ReferenceMachine :=
  { machine with warn := false }

def InstrumentedMachine.silenced (machine : InstrumentedMachine) : InstrumentedMachine :=
  { machine with reference := machine.reference.silenced }

def Machine.silenced : Machine → Machine
  | reference machine => .reference machine.silenced
  | native machine => .native machine
  | instrumented machine => .instrumented machine.silenced

/-- The same files and counters, and the silenced log. -/
structure World.Quieter (loud quiet : World) : Prop where
  files : quiet.files = loud.files
  counters : quiet.counters = loud.counters
  events : quiet.events.toList = loud.events.toList.filterMap Event.silenced?

namespace World.Quieter

variable {loud quiet : World}

theorem count (h : loud.Quieter quiet) (name : String) :
    (loud.count name).Quieter (quiet.count name) where
  files := h.files
  counters := congrArg (Counters.increment name) h.counters
  events := h.events

/-- An event that is reported in both worlds, without the flag in the second. -/
theorem report {e muted : Event} (h : loud.Quieter quiet) (he : e.silenced? = some muted) :
    (loud.report mw.unaware e).Quieter (quiet.report mw.unaware muted) where
  files := by
    show mw.unaware muted quiet.files = mw.unaware e loud.files
    simp only [Meanwhile.unaware, he, Event.silenced?_unflagged he, h.files]
  counters := h.counters
  events := by
    simp only [World.report, Array.toList_push, List.filterMap_append, h.events,
      List.filterMap_cons_some he, List.filterMap_nil]

/-- A report that is left out is not noticed. -/
theorem report_none {e : Event} (h : loud.Quieter quiet) (he : e.silenced? = none) :
    (loud.report mw.unaware e).Quieter quiet where
  files := by
    show quiet.files = mw.unaware e loud.files
    simp only [Meanwhile.unaware, he, h.files]
  counters := h.counters
  events := by
    simp only [World.report, Array.toList_push, List.filterMap_append, h.events,
      List.filterMap_cons_none he, List.filterMap_nil, List.append_nil]

/-- Events in the first world, and those of them that are left in the second. -/
theorem reportAll (h : loud.Quieter quiet) (mw : Meanwhile) (events : List Event) :
    (loud.reportAll mw.unaware events).Quieter
      (quiet.reportAll mw.unaware (events.filterMap Event.silenced?)) := by
  induction events generalizing loud quiet with
  | nil => exact h
  | cons e events ih =>
    cases he : e.silenced? with
    | none =>
      rw [List.filterMap_cons_none he]
      exact ih (h.report_none he)
    | some muted =>
      rw [List.filterMap_cons_some he]
      exact ih (h.report he)

end World.Quieter

/-! ### Operations -/

section Operations

variable {σ τ σ' τ' α β : Type} {silence : σ → σ'} {machine : σ}

/-- The second operation does on the silenced machine, in a quieter world, what the first one does
on the machine. -/
def Operation.Mutes (mw : Meanwhile) (silence : σ → σ') (machine : σ) (op : Operation σ α)
    (op' : Operation σ' α) : Prop :=
  ∀ loud quiet : World, loud.Quieter quiet →
    let done := op.carryOut mw.unaware machine loud
    let done' := op'.carryOut mw.unaware (silence machine) quiet
    done'.1 = (done.1.1, silence done.1.2) ∧ done.2.Quieter done'.2

namespace Operation.Mutes

theorem pure (a : α) : Mutes mw silence machine (pure a) (pure a) :=
  fun _ _ h => ⟨rfl, h⟩

/-- The second parts are compared on the machine that the first part leaves. -/
theorem bind {op : Operation σ α} {op' : Operation σ' α} {f : α → Operation σ β}
    {f' : α → Operation σ' β} (hop : Mutes mw silence machine op op')
    (hf : ∀ a next, Mutes mw silence next (f a) (f' a)) :
    Mutes mw silence machine (op >>= f) (op' >>= f') := by
  intro loud quiet h
  obtain ⟨hdone, hworld⟩ := hop loud quiet h
  simp only [carryOut_bind]
  -- The first parts have ended alike, so both go on or neither does.
  generalize op.carryOut mw.unaware machine loud = done at hdone hworld ⊢
  generalize op'.carryOut mw.unaware (silence machine) quiet = done' at hdone hworld ⊢
  obtain ⟨⟨cause | a, next⟩, loud'⟩ := done
  · obtain ⟨done', quiet'⟩ := done'
    cases hdone
    exact ⟨rfl, hworld⟩
  · obtain ⟨done', quiet'⟩ := done'
    cases hdone
    exact hf a next loud' quiet' hworld

/-- An operation that first looks at the machine goes on with the silenced one. -/
theorem get_bind {f : σ → Operation σ α} {f' : σ' → Operation σ' α}
    (hf : Mutes mw silence machine (f machine) (f' (silence machine))) :
    Mutes mw silence machine (get >>= f) (get >>= f') := by
  intro loud quiet h
  simp only [carryOut_bind, carryOut_get]
  exact hf loud quiet h

theorem discard {op : Operation σ α} {op' : Operation σ' α}
    (hop : Mutes mw silence machine op op') :
    Mutes mw silence machine (Functor.discard op) (Functor.discard op') := by
  intro loud quiet h
  obtain ⟨hdone, hworld⟩ := hop loud quiet h
  simp only [carryOut_discard]
  exact ⟨by rw [hdone], hworld⟩

/-- An operation on a part, if the silenced whole has the silenced part. -/
theorem within {silencePart : τ → τ'} {op : Operation τ α} {op' : Operation τ' α} {part : τ}
    {whole : τ → σ} {whole' : τ' → σ'} (hop : Mutes mw silencePart part op op')
    (hwhole : ∀ next, whole' (silencePart next) = silence (whole next)) :
    Mutes mw silence machine (op.within part whole) (op'.within (silencePart part) whole') := by
  intro loud quiet h
  obtain ⟨hdone, hworld⟩ := hop loud quiet h
  simp only [carryOut_within]
  exact ⟨by rw [hdone, hwhole], hworld⟩

end Operation.Mutes

end Operations

namespace ReferenceMachine

theorem hash_mutes (machine : ReferenceMachine) : hash.Mutes mw silenced machine hash :=
  fun _ _ h => ⟨rfl, h⟩

theorem status_mutes (machine : ReferenceMachine) : status.Mutes mw silenced machine status :=
  fun _ _ h => ⟨rfl, h⟩

/-- All that a run reports is left out without the flag. -/
theorem execute_mutes (machine : ReferenceMachine) (maxSteps : UInt64) :
    (execute maxSteps).Mutes mw silenced machine (execute maxSteps) := by
  intro loud quiet h
  -- The silenced machine reports nothing, and what the other one reports is left out.
  have hnone : machine.silenced.runEvents maxSteps = [] := by
    unfold runEvents silenced
    simp only [Bool.false_eq_true, false_and, if_false]
  have hevents : (machine.runEvents maxSteps).filterMap Event.silenced? = [] := by
    unfold runEvents
    dsimp only
    split <;> rfl
  have hworld := h.reportAll mw (machine.runEvents maxSteps)
  rw [hevents] at hworld
  simp only [execute_carryOut, hnone]
  exact ⟨rfl, hworld⟩

end ReferenceMachine

namespace NativeMachine

variable {α : Type}

/-- What a native machine reports is reported without the flag, too. -/
theorem filterMap_fillEvents (machine : NativeMachine) (files : Files) :
    (machine.fillEvents files).filterMap Event.silenced? = machine.fillEvents files := by
  unfold fillEvents
  cases machine.slot with
  | some loaded => rfl
  | none => cases files.program machine.path <;> rfl

/-- A native machine has no flag. -/
theorem withCore_mutes (use : Core → Core × α) (machine : NativeMachine) :
    (withCore use).Mutes mw id machine (withCore use) := by
  intro loud quiet h
  have hworld := h.reportAll mw (machine.fillEvents loud.files)
  rw [filterMap_fillEvents] at hworld
  simp only [withCore_carryOut, id, h.files]
  exact ⟨trivial, hworld⟩

end NativeMachine

namespace InstrumentedMachine

variable {α : Type} (machine : InstrumentedMachine)

theorem onReference_mutes {op : Operation ReferenceMachine α}
    (hop : ∀ machine, op.Mutes mw ReferenceMachine.silenced machine op) :
    (onReference op).Mutes mw silenced machine (onReference op) :=
  .get_bind ((hop machine.reference).within fun _ => rfl)

theorem onNative_mutes {op : Operation NativeMachine α}
    (hop : ∀ machine, op.Mutes mw id machine op) :
    (onNative op).Mutes mw silenced machine (onNative op) :=
  .get_bind ((hop machine.native).within fun _ => rfl)

theorem diverge_mutes (context expected actual : String) :
    (diverge context expected actual : Operation InstrumentedMachine α).Mutes mw silenced machine
      (diverge context expected actual) := by
  intro loud quiet h
  simp only [diverge_carryOut]
  exact ⟨trivial, h.report rfl⟩

theorem check_mutes (context : String) :
    (check context).Mutes mw silenced machine (check context) := by
  refine .bind (onReference_mutes machine ReferenceMachine.hash_mutes) fun expected machine => ?_
  refine .bind (onNative_mutes machine (NativeMachine.withCore_mutes _)) fun actual machine => ?_
  split
  · exact diverge_mutes machine _ _ _
  · refine .bind (onReference_mutes machine ReferenceMachine.status_mutes) fun _ machine => ?_
    refine .bind (onNative_mutes machine (NativeMachine.withCore_mutes _)) fun _ machine => ?_
    split
    · exact diverge_mutes machine _ _ _
    · exact .pure expected

theorem status_mutes : status.Mutes mw silenced machine status :=
  .bind (check_mutes machine _).discard fun _ machine =>
    onReference_mutes machine ReferenceMachine.status_mutes

theorem execute_mutes (maxSteps : UInt64) :
    (execute maxSteps).Mutes mw silenced machine (execute maxSteps) := by
  refine .bind (onReference_mutes machine fun machine => machine.execute_mutes maxSteps)
    fun expected machine => ?_
  refine .bind (onNative_mutes machine (NativeMachine.withCore_mutes _)) fun actual machine => ?_
  split
  · exact diverge_mutes machine _ _ _
  · refine .bind (check_mutes machine _).discard fun _ machine => ?_
    -- Runs are counted with and without the flag.
    have hcounted : (modify fun machine : InstrumentedMachine =>
        { machine with runs := machine.runs + 1 } : Operation _ _).Mutes mw silenced machine
          (modify fun machine => { machine with runs := machine.runs + 1 }) :=
      fun _ _ h => ⟨rfl, h⟩
    exact .bind hcounted fun _ _ => .pure expected

end InstrumentedMachine

namespace Machine

theorem hash_mutes (machine : Machine) : hash.Mutes mw silenced machine hash := by
  refine .get_bind ?_
  cases machine with
  | reference machine => exact machine.hash_mutes.within fun _ => rfl
  | native machine => exact (NativeMachine.withCore_mutes _ machine).within fun _ => rfl
  | instrumented machine => exact (machine.check_mutes _).within fun _ => rfl

theorem status_mutes (machine : Machine) : status.Mutes mw silenced machine status := by
  refine .get_bind ?_
  cases machine with
  | reference machine => exact machine.status_mutes.within fun _ => rfl
  | native machine => exact (NativeMachine.withCore_mutes _ machine).within fun _ => rfl
  | instrumented machine => exact machine.status_mutes.within fun _ => rfl

theorem execute_mutes (machine : Machine) (maxSteps : UInt64) :
    (execute maxSteps).Mutes mw silenced machine (execute maxSteps) := by
  refine .get_bind ?_
  cases machine with
  | reference machine => exact (machine.execute_mutes maxSteps).within fun _ => rfl
  | native machine => exact (NativeMachine.withCore_mutes _ machine).within fun _ => rfl
  | instrumented machine => exact (machine.execute_mutes maxSteps).within fun _ => rfl

/-- A machine of any kind replies the same without the flag. -/
theorem reply_mutes (query : Query) (machine : Machine) :
    (reply query).Mutes mw silenced machine (reply query) := by
  cases query with
  | hash => exact .bind machine.hash_mutes fun _ _ => .pure _
  | status => exact .bind machine.status_mutes fun _ _ => .pure _
  | execute maxSteps => exact .bind (machine.execute_mutes maxSteps) fun _ _ => .pure _

@[simp] theorem backend_silenced (machine : Machine) :
    machine.silenced.backend = machine.backend := by
  cases machine <;> rfl

end Machine

/-! ### Loading -/

/-- The second attempt makes in a quieter world what the first one makes, silenced. -/
def Attempt.Mutes {α α' : Type} (mw : Meanwhile) (silence : α → α') (a : Attempt α)
    (a' : Attempt α') : Prop :=
  ∀ loud quiet : World, loud.Quieter quiet →
    let done := a.carryOut mw.unaware loud
    let done' := a'.carryOut mw.unaware quiet
    done'.1 = done.1.map silence ∧ done.2.Quieter done'.2

namespace Attempt.Mutes

variable {α α' β β' σ σ' : Type} {silence : α → α'} {silence' : β → β'}

theorem pure {a : α} {a' : α'} (h : a' = silence a) : Mutes mw silence (pure a) (pure a') := by
  intro loud quiet hworld
  subst h
  exact ⟨rfl, hworld⟩

theorem bind {a : Attempt α} {a' : Attempt α'} {f : α → Attempt β} {f' : α' → Attempt β'}
    (ha : Mutes mw silence a a') (hf : ∀ x, Mutes mw silence' (f x) (f' (silence x))) :
    Mutes mw silence' (a >>= f) (a' >>= f') := by
  intro loud quiet h
  obtain ⟨hdone, hworld⟩ := ha loud quiet h
  simp only [carryOut_bind]
  generalize a.carryOut mw.unaware loud = done at hdone hworld ⊢
  generalize a'.carryOut mw.unaware quiet = done' at hdone hworld ⊢
  obtain ⟨cause | x, loud'⟩ := done
  · obtain ⟨done', quiet'⟩ := done'
    cases hdone
    exact ⟨rfl, hworld⟩
  · obtain ⟨done', quiet'⟩ := done'
    cases hdone
    exact hf x loud' quiet' hworld

/-- What an operation comes to, as an attempt that goes on with the machine it leaves behind. -/
theorem on {silence : σ → σ'} {machine : σ} {op : Operation σ α} {op' : Operation σ' α}
    (hop : op.Mutes mw silence machine op') :
    Mutes mw (Prod.map id silence) (liftM (op.on machine)) (liftM (op'.on (silence machine))) := by
  intro loud quiet h
  obtain ⟨hdone, hworld⟩ := hop loud quiet h
  simp only [carryOut_action]
  exact ⟨congrArg Except.ok hdone, hworld⟩

theorem discard_result (r : Except Failure α) :
    Mutes mw id (Functor.discard (liftM r : Attempt α))
      (Functor.discard (liftM r : Attempt α)) := by
  intro loud quiet h
  simp only [carryOut_discard, carryOut_result]
  exact ⟨by cases r <;> rfl, h⟩

theorem report {e muted : Event} (he : e.silenced? = some muted) :
    Mutes mw id (liftM (report e) : Attempt Unit) (liftM (StackMachine.report muted)) := by
  intro loud quiet h
  simp only [carryOut_action, perform_report]
  exact ⟨rfl, h.report he⟩

end Attempt.Mutes

namespace ReferenceMachine

/-- Without the flag, a load reports the same but for the findings. -/
theorem filterMap_loadEvents (path : String) (warn : Bool) (image : Image)
    (findings : List Finding) :
    (loadEvents path warn image findings).filterMap Event.silenced? =
      loadEvents path false image findings := by
  have hnone : (findings.map (Event.oddity path)).filterMap Event.silenced? = [] := by
    rw [List.filterMap_eq_nil_iff]
    intro e he
    obtain ⟨finding, -, rfl⟩ := List.mem_map.mp he
    rfl
  unfold loadEvents
  cases warn with
  | false => rfl
  | true =>
    rw [if_pos rfl, List.filterMap_append, hnone]
    rfl

theorem load_mutes (path : String) (warn : Bool) :
    Attempt.Mutes mw silenced (load path warn) (load path false) := by
  intro loud quiet h
  simp only [load_carryOut, h.files]
  rcases loud.files.program path with cause | ⟨image, findings⟩
  · exact ⟨rfl, h⟩
  · have hworld := h.reportAll mw (loadEvents path warn image findings)
    rw [filterMap_loadEvents] at hworld
    exact ⟨rfl, hworld⟩

end ReferenceMachine

/-- The flag goes to the reference half, and from there on the load is the same. -/
theorem InstrumentedMachine.load_mutes (path : String) (warn : Bool) :
    Attempt.Mutes mw silenced (load path warn) (load path false) := by
  refine .bind (ReferenceMachine.load_mutes path warn) fun reference => ?_
  -- The comparison is an operation, which the load carries out on a machine not yet returned.
  have hchecked : Attempt.Mutes mw (Prod.map id silenced)
      (liftM ((check "load").on ⟨reference, .new path, 0⟩))
      (liftM ((check "load").on (silenced ⟨reference, .new path, 0⟩))) :=
    .on (check_mutes _ "load")
  refine .bind hchecked ?_
  rintro ⟨checked, machine⟩
  refine .bind (.discard_result checked) fun _ => ?_
  exact .bind (.report rfl) fun _ => .pure rfl

/-- To make a machine of any kind comes to the same without the flag. -/
theorem Loader.builtin_mutes (kind : Backend) (path : String) (warn : Bool) :
    Attempt.Mutes mw Machine.silenced (builtin.constructor kind path warn)
      (builtin.constructor kind path false) := by
  cases kind with
  | reference => exact .bind (ReferenceMachine.load_mutes path warn) fun _ => .pure rfl
  | native => exact .pure rfl
  | instrumented => exact .bind (InstrumentedMachine.load_mutes path warn) fun _ => .pure rfl

end StackMachine
