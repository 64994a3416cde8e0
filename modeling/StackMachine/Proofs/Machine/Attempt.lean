import StackMachine.Machine.Attempt

/-!
# Carrying out attempts and operations

What an attempt, or an operation on a machine, comes to in a world. Each way of putting operations
together has one equation here, so that what an operation does is read off its text by rewriting,
and the layers of the monad are not seen again.

Loading a machine and asking one do nothing to the world but report events, in the order in which
`World.reportAll` reports them.
-/

namespace StackMachine

/-! ### Reporting -/

namespace World

variable {mw : Meanwhile}

def reportAll (w : World) (mw : Meanwhile) (events : List Event) : World :=
  events.foldl (fun w e => w.report mw e) w

@[simp] theorem reportAll_nil (w : World) : w.reportAll mw [] = w := rfl

@[simp] theorem reportAll_cons (w : World) (e : Event) (events : List Event) :
    w.reportAll mw (e :: events) = (w.report mw e).reportAll mw events := rfl

theorem reportAll_append (w : World) (first second : List Event) :
    w.reportAll mw (first ++ second) = (w.reportAll mw first).reportAll mw second :=
  List.foldl_append

/-- Events are listed in the order in which they are reported. -/
theorem reportAll_events (w : World) (events : List Event) :
    (w.reportAll mw events).events.toList = w.events.toList ++ events := by
  induction events generalizing w with
  | nil => rw [reportAll_nil, List.append_nil]
  | cons e events ih =>
    rw [reportAll_cons, ih, report, Array.toList_push, List.append_assoc, List.singleton_append]

/-- To report is not to count. -/
@[simp] theorem reportAll_counters (w : World) (events : List Event) :
    (w.reportAll mw events).counters = w.counters := by
  induction events generalizing w with
  | nil => rfl
  | cons e events ih => exact ih (w.report mw e)

/-- What others keep about the files while an event is reported is kept while all are. -/
theorem reportAll_keeps (kept : Files → Prop) (hmw : ∀ e files, kept files → kept (mw e files))
    {w : World} (h : kept w.files) (events : List Event) : kept (w.reportAll mw events).files := by
  induction events generalizing w with
  | nil => exact h
  | cons e events ih => exact ih (hmw e w.files h)

/-- Reports change no files if nobody else is at work. -/
@[simp] theorem reportAll_nothing_files (w : World) (events : List Event) :
    (w.reportAll .nothing events).files = w.files :=
  reportAll_keeps (· = w.files) (fun _ _ h => h) rfl events

end World

/-! ### Attempts -/

namespace Attempt

/-- What an attempt comes to. -/
def carryOut {α : Type} (a : Attempt α) (mw : Meanwhile) (w : World) :
    Except Failure α × World := (ExceptT.run a).perform mw w

variable {α β : Type} {mw : Meanwhile} {w : World}

@[simp] theorem carryOut_pure (a : α) : carryOut (pure a) mw w = (.ok a, w) := rfl

@[simp] theorem carryOut_throw (cause : Failure) :
    carryOut (throw cause : Attempt α) mw w = (.error cause, w) := rfl

@[simp] theorem carryOut_result (r : Except Failure α) :
    carryOut (liftM r : Attempt α) mw w = (r, w) := rfl

@[simp] theorem carryOut_action (a : Action α) :
    carryOut (liftM a : Attempt α) mw w = (.ok (a.perform mw w).1, (a.perform mw w).2) :=
  Action.perform_bind mw a _ w

/-- An attempt in two parts is carried out part by part, unless the first one fails. -/
@[simp] theorem carryOut_bind (a : Attempt α) (f : α → Attempt β) :
    carryOut (a >>= f) mw w =
      match carryOut a mw w with
      | (.ok x, w) => carryOut (f x) mw w
      | (.error cause, w) => (.error cause, w) := by
  -- Both sides ask how the first part ended.
  refine (Action.perform_bind mw (ExceptT.run a) _ w).trans ?_
  unfold carryOut
  rcases (ExceptT.run a).perform mw w with ⟨r | x, w⟩
  · rfl
  · rfl

@[simp] theorem carryOut_map (a : Attempt α) (f : α → β) :
    carryOut (f <$> a) mw w = ((carryOut a mw w).1.map f, (carryOut a mw w).2) := by
  rw [← bind_pure_comp, carryOut_bind]
  rcases carryOut a mw w with ⟨r | x, w⟩
  · rfl
  · rfl

@[simp] theorem carryOut_discard (a : Attempt α) :
    carryOut (discard a) mw w =
      ((carryOut a mw w).1.map fun _ => ⟨⟩, (carryOut a mw w).2) :=
  carryOut_map a (Function.const α PUnit.unit)

end Attempt

/-! ### Operations -/

namespace Operation

/-- What an operation on a machine comes to. -/
def carryOut {σ α : Type} (op : Operation σ α) (mw : Meanwhile) (machine : σ) (w : World) :
    (Except Failure α × σ) × World := (op.on machine).perform mw w

variable {σ τ α β : Type} {mw : Meanwhile} {machine : σ} {w : World}

@[simp] theorem carryOut_pure (a : α) :
    carryOut (pure a : Operation σ α) mw machine w = ((.ok a, machine), w) := rfl

@[simp] theorem carryOut_throw (cause : Failure) :
    carryOut (throw cause : Operation σ α) mw machine w = ((.error cause, machine), w) := rfl

@[simp] theorem carryOut_get :
    carryOut (get : Operation σ σ) mw machine w = ((.ok machine, machine), w) := rfl

@[simp] theorem carryOut_set (other : σ) :
    carryOut (set other : Operation σ PUnit) mw machine w = ((.ok ⟨⟩, other), w) := rfl

@[simp] theorem carryOut_modify (f : σ → σ) :
    carryOut (modify f : Operation σ PUnit) mw machine w = ((.ok ⟨⟩, f machine), w) := rfl

@[simp] theorem carryOut_action (a : Action α) :
    carryOut (liftM a : Operation σ α) mw machine w =
      ((.ok (a.perform mw w).1, machine), (a.perform mw w).2) := by
  -- The action is lifted twice, first into the state and then into the failures.
  show (Action.bind (Action.bind a _) _).perform mw w = _
  rw [Action.bind_bind]
  exact Action.perform_bind mw a _ w

/-- An operation in two parts is carried out part by part, unless the first one fails. -/
@[simp] theorem carryOut_bind (op : Operation σ α) (f : α → Operation σ β) :
    carryOut (op >>= f) mw machine w =
      match carryOut op mw machine w with
      | ((.ok a, machine), w) => carryOut (f a) mw machine w
      | ((.error cause, machine), w) => ((.error cause, machine), w) := by
  refine (Action.perform_bind mw (op.on machine) _ w).trans ?_
  unfold carryOut
  rcases (op.on machine).perform mw w with ⟨⟨r | a, machine⟩, w⟩
  · rfl
  · rfl

@[simp] theorem carryOut_map (op : Operation σ α) (f : α → β) :
    carryOut (f <$> op) mw machine w =
      (((carryOut op mw machine w).1.1.map f, (carryOut op mw machine w).1.2),
        (carryOut op mw machine w).2) := by
  rw [← bind_pure_comp, carryOut_bind]
  rcases carryOut op mw machine w with ⟨⟨r | a, machine⟩, w⟩
  · rfl
  · rfl

@[simp] theorem carryOut_discard (op : Operation σ α) :
    carryOut (discard op) mw machine w =
      (((carryOut op mw machine w).1.1.map fun _ => ⟨⟩, (carryOut op mw machine w).1.2),
        (carryOut op mw machine w).2) :=
  carryOut_map op (Function.const α PUnit.unit)

/-- An operation on a part changes nothing but that part. -/
@[simp] theorem carryOut_within (op : Operation τ α) (part : τ) (whole : τ → σ) :
    carryOut (op.within part whole) mw machine w =
      (((carryOut op mw part w).1.1, whole (carryOut op mw part w).1.2),
        (carryOut op mw part w).2) := by
  unfold within
  rw [carryOut_bind, carryOut_action]
  rfl

end Operation

/-! ### Reports -/

@[simp] theorem perform_report {mw : Meanwhile} (e : Event) (w : World) :
    (report e).perform mw w = ((), w.report mw e) := rfl

/-- A report for each item of a list. -/
theorem Attempt.carryOut_forM_report {α : Type} {mw : Meanwhile} (f : α → Event) (items : List α)
    (w : World) :
    carryOut (items.forM fun item => liftM (report (f item))) mw w =
      (.ok ⟨⟩, w.reportAll mw (items.map f)) := by
  induction items generalizing w with
  | nil => rfl
  | cons item items ih =>
    -- One report, and then those of the other items.
    show carryOut (liftM (report (f item)) >>= fun _ => items.forM _) mw w = _
    rw [carryOut_bind, carryOut_action]
    exact ih (w.report mw (f item))

end StackMachine
