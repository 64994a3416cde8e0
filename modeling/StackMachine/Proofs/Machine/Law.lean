import StackMachine.Machine.Fleet

/-!
# Laws that machines obey

To make a machine and to ask one reads files and reports events, and does nothing else to the world.
So a property of actions that reads and reports have, and that passes from the parts of an action to
the whole, holds of all that is done with machines. Such a property is a `Law`.

For this a law is taken through each way of putting attempts and operations together, and then along
the text of the machines.
-/

namespace StackMachine

variable {α β σ τ ε : Type}

/-- A property of actions that reads and reports have, and an action in two parts if both have it. -/
structure Law where
  Holds : {α : Type} → Action α → Prop
  done : ∀ {α : Type} (a : α), Holds (.done a)
  readFile : ∀ (path : String) (limit : Option Nat), Holds (readFile path limit)
  report : ∀ e : Event, Holds (report e)
  bind : ∀ {α β : Type} {a : Action α} {f : α → Action β},
    Holds a → (∀ x, Holds (f x)) → Holds (a >>= f)

variable {law : Law}

/-! ### Attempts -/

/-- An attempt, whatever its failures, that obeys a law. -/
def Attempt.Obeys (law : Law) (a : ExceptT ε Action α) : Prop := law.Holds (ExceptT.run a)

namespace Attempt.Obeys

/-- An attempt that is over. -/
theorem of_done {a : ExceptT ε Action α} (h : ∃ r, ExceptT.run a = .done r) : Obeys law a := by
  obtain ⟨r, hr⟩ := h
  unfold Obeys
  rw [hr]
  exact law.done r

theorem action {a : Action α} (ha : law.Holds a) : Obeys law (liftM a : ExceptT ε Action α) :=
  law.bind ha fun x => law.done (Except.ok x)

theorem bind {a : ExceptT ε Action α} {f : α → ExceptT ε Action β} (ha : Obeys law a)
    (hf : ∀ x, Obeys law (f x)) : Obeys law (a >>= f) := by
  -- If the first part has failed, nothing more is done.
  refine law.bind ha ?_
  rintro (cause | x)
  · exact law.done (Except.error cause)
  · exact hf x

theorem discard {a : ExceptT ε Action α} (ha : Obeys law a) : Obeys law (Functor.discard a) := by
  show Obeys law (Function.const α PUnit.unit <$> a)
  rw [← bind_pure_comp]
  exact ha.bind fun _ => of_done ⟨_, rfl⟩

theorem forM {items : List α} {f : α → ExceptT ε Action PUnit}
    (hf : ∀ item, Obeys law (f item)) : Obeys law (items.forM f) := by
  induction items with
  | nil => exact of_done ⟨_, rfl⟩
  | cons item items ih => exact (hf item).bind fun _ => ih

end Attempt.Obeys

/-! ### Operations -/

/-- An operation that obeys a law, whatever the machine. -/
def Operation.Obeys (law : Law) (op : Operation σ α) : Prop :=
  ∀ machine, law.Holds (op.on machine)

namespace Operation.Obeys

/-- An operation on the machine alone. -/
theorem of_done {op : Operation σ α} (h : ∀ machine, ∃ r, op.on machine = .done r) :
    Obeys law op := by
  intro machine
  obtain ⟨r, hr⟩ := h machine
  rw [hr]
  exact law.done r

theorem action {a : Action α} (ha : law.Holds a) : Obeys law (liftM a : Operation σ α) :=
  fun machine =>
    law.bind (law.bind ha fun x => law.done (x, machine)) fun x => law.done (Except.ok x.1, x.2)

theorem bind {op : Operation σ α} {f : α → Operation σ β} (hop : Obeys law op)
    (hf : ∀ x, Obeys law (f x)) : Obeys law (op >>= f) := by
  intro machine
  refine law.bind (hop machine) ?_
  rintro ⟨cause | x, after⟩
  · exact law.done (Except.error cause, after)
  · exact hf x after

/-- An operation that first looks at the machine. -/
theorem get_bind {f : σ → Operation σ α} (hf : ∀ machine, Obeys law (f machine)) :
    Obeys law (get >>= f) :=
  bind (of_done fun machine => ⟨(Except.ok machine, machine), rfl⟩) hf

theorem discard {op : Operation σ α} (hop : Obeys law op) : Obeys law (Functor.discard op) := by
  show Obeys law (Function.const α PUnit.unit <$> op)
  rw [← bind_pure_comp]
  exact hop.bind fun _ => of_done fun _ => ⟨_, rfl⟩

theorem within {op : Operation τ α} (hop : Obeys law op) (part : τ) (whole : τ → σ) :
    Obeys law (op.within part whole) := by
  refine (action (hop part)).bind ?_
  rintro ⟨result, part⟩
  exact (of_done fun _ => ⟨_, rfl⟩).bind fun _ => of_done fun _ => ⟨_, rfl⟩

end Operation.Obeys

/-! ### Loading -/

variable (law)

theorem Image.load_obeys (path : String) : Attempt.Obeys law (load path) := by
  -- The file is read once, whatever comes of it; the rest is about the bytes.
  have hbytes : Attempt.Obeys law (fileBytes path) := by
    refine .bind (.action (law.readFile path _)) ?_
    rintro (cause | bytes)
    · exact .of_done ⟨_, rfl⟩
    · show Attempt.Obeys law (if maxBytes < bytes.size then throw _ else pure bytes)
      split
      · exact .of_done ⟨_, rfl⟩
      · exact .of_done ⟨_, rfl⟩
  exact hbytes.bind fun bytes => .of_done ⟨_, rfl⟩

theorem ReferenceMachine.load_obeys (path : String) (warn : Bool) :
    Attempt.Obeys law (load path warn) := by
  refine (Image.load_obeys law path).bind fun image => ?_
  refine .bind (.of_done ⟨_, rfl⟩) fun findings => ?_
  -- The end of a load is the same with warnings and without.
  have hloaded : Attempt.Obeys law (do
      report (.referenceLoaded path image.code.size)
      return { path, warn, core := .ofImage image } : Attempt ReferenceMachine) :=
    .bind (.action (law.report _)) fun _ => .of_done ⟨_, rfl⟩
  cases warn with
  | false => exact hloaded
  | true => exact .bind (.forM fun finding => .action (law.report _)) fun _ => hloaded

namespace NativeMachine

theorem load_obeys (path : String) : Attempt.Obeys law (load path) := by
  refine (Image.load_obeys law path).bind fun image => ?_
  refine .bind (.discard (.of_done ⟨_, rfl⟩)) fun _ => ?_
  exact .bind (.action (law.report _)) fun _ => .of_done ⟨_, rfl⟩

theorem filled_obeys (machine : NativeMachine) : law.Holds machine.filled := by
  unfold filled
  cases machine.slot with
  | some loaded => exact law.done loaded
  | none =>
    refine law.bind (load_obeys law machine.path) ?_
    rintro (cause | core)
    · exact law.bind (law.report _) fun _ => law.done _
    · exact law.done _

theorem withCore_obeys (use : Core → Core × α) : (withCore use).Obeys law := by
  refine .get_bind fun machine => ?_
  -- Whether the slot holds a core or a failure, it is put back.
  refine .bind (.action (filled_obeys law machine)) ?_
  rintro (cause | core)
  · exact .bind (.of_done fun _ => ⟨_, rfl⟩) fun _ => .of_done fun _ => ⟨_, rfl⟩
  · exact .bind (.of_done fun _ => ⟨_, rfl⟩) fun _ => .of_done fun _ => ⟨_, rfl⟩

end NativeMachine

/-! ### Asking -/

theorem ReferenceMachine.execute_obeys (maxSteps : UInt64) : (execute maxSteps).Obeys law := by
  refine .get_bind fun machine => ?_
  refine .bind (.of_done fun _ => ⟨_, rfl⟩) fun _ => ?_
  split
  · exact .bind (.action (law.report _)) fun _ => .of_done fun _ => ⟨_, rfl⟩
  · exact .of_done fun _ => ⟨_, rfl⟩

namespace InstrumentedMachine

theorem onReference_obeys {op : Operation ReferenceMachine α} (hop : op.Obeys law) :
    (onReference op).Obeys law :=
  .get_bind fun _ => hop.within _ _

theorem onNative_obeys {op : Operation NativeMachine α} (hop : op.Obeys law) :
    (onNative op).Obeys law :=
  .get_bind fun _ => hop.within _ _

theorem diverge_obeys (context expected actual : String) :
    (diverge context expected actual : Operation InstrumentedMachine α).Obeys law :=
  .bind (.action (law.report _)) fun _ => .of_done fun _ => ⟨_, rfl⟩

/-- A comparison comes to two looks at either half at most, and a report. -/
theorem check_obeys (context : String) : (check context).Obeys law := by
  refine .bind (onReference_obeys law (.of_done fun _ => ⟨_, rfl⟩)) fun expected => ?_
  refine .bind (onNative_obeys law (NativeMachine.withCore_obeys law _)) fun actual => ?_
  split
  · exact diverge_obeys law _ _ _
  · refine .bind (onReference_obeys law (.of_done fun _ => ⟨_, rfl⟩)) fun expected => ?_
    refine .bind (onNative_obeys law (NativeMachine.withCore_obeys law _)) fun actual => ?_
    split
    · exact diverge_obeys law _ _ _
    · exact .of_done fun _ => ⟨_, rfl⟩

theorem load_obeys (path : String) (warn : Bool) : Attempt.Obeys law (load path warn) := by
  refine (ReferenceMachine.load_obeys law path warn).bind fun reference => ?_
  refine .bind (.action (check_obeys law "load" _)) ?_
  rintro ⟨checked, machine⟩
  refine .bind (.discard (.of_done ⟨_, rfl⟩)) fun _ => ?_
  exact .bind (.action (law.report _)) fun _ => .of_done ⟨_, rfl⟩

theorem status_obeys : status.Obeys law :=
  .bind (.discard (check_obeys law _)) fun _ =>
    onReference_obeys law (.of_done fun _ => ⟨_, rfl⟩)

theorem execute_obeys (maxSteps : UInt64) : (execute maxSteps).Obeys law := by
  refine .bind (onReference_obeys law (ReferenceMachine.execute_obeys law _)) fun expected => ?_
  refine .bind (onNative_obeys law (NativeMachine.withCore_obeys law _)) fun actual => ?_
  split
  · exact diverge_obeys law _ _ _
  · refine .bind (.discard (check_obeys law _)) fun _ => ?_
    exact .bind (.of_done fun _ => ⟨_, rfl⟩) fun _ => .of_done fun _ => ⟨_, rfl⟩

end InstrumentedMachine

namespace Machine

theorem hash_obeys : hash.Obeys law := by
  refine .get_bind ?_
  rintro (machine | machine | machine)
  · exact .within (.of_done fun _ => ⟨_, rfl⟩) _ _
  · exact (NativeMachine.withCore_obeys law _).within _ _
  · exact (InstrumentedMachine.check_obeys law _).within _ _

theorem status_obeys : status.Obeys law := by
  refine .get_bind ?_
  rintro (machine | machine | machine)
  · exact .within (.of_done fun _ => ⟨_, rfl⟩) _ _
  · exact (NativeMachine.withCore_obeys law _).within _ _
  · exact (InstrumentedMachine.status_obeys law).within _ _

theorem execute_obeys (maxSteps : UInt64) : (execute maxSteps).Obeys law := by
  refine .get_bind ?_
  rintro (machine | machine | machine)
  · exact (ReferenceMachine.execute_obeys law _).within _ _
  · exact (NativeMachine.withCore_obeys law _).within _ _
  · exact (InstrumentedMachine.execute_obeys law _).within _ _

/-- To ask a machine anything. -/
theorem reply_obeys (query : Query) : (reply query).Obeys law := by
  cases query with
  | hash => exact (hash_obeys law).bind fun _ => .of_done fun _ => ⟨_, rfl⟩
  | status => exact (status_obeys law).bind fun _ => .of_done fun _ => ⟨_, rfl⟩
  | execute maxSteps =>
    exact (execute_obeys law maxSteps).bind fun _ => .of_done fun _ => ⟨_, rfl⟩

end Machine

/-- To make a machine of any kind. -/
theorem Loader.builtin_obeys (kind : Backend) (path : String) (warn : Bool) :
    Attempt.Obeys law (builtin.constructor kind path warn) := by
  cases kind with
  | reference => exact (ReferenceMachine.load_obeys law path warn).bind fun _ => .of_done ⟨_, rfl⟩
  | native => exact .of_done ⟨_, rfl⟩
  | instrumented =>
    exact (InstrumentedMachine.load_obeys law path warn).bind fun _ => .of_done ⟨_, rfl⟩

end StackMachine
