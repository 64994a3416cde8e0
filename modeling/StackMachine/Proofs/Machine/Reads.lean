import StackMachine.Proofs.Machine.History
import StackMachine.Proofs.Machine.Native

/-!
# Which files are read

`Action.reads` lists the paths that an action reads while it is carried out. As for what actions
come to, there is one equation for each way of putting attempts and operations together, and the
reads of the machines follow from these.

A native machine that is asked reads its file if it has not been used, and reads nothing if it has
(`Scene.reads_ask_of_native`). To copy a machine reads nothing, whatever the machine.
-/

namespace StackMachine

variable {α β σ τ : Type} {mw : Meanwhile} {w : World}

/-! ### Actions -/

namespace Action

/-- The paths that are read, the first one first. -/
def reads (mw : Meanwhile) : Action α → World → List String
  | done _, _ => []
  | read path limit next, w => path :: (next (w.read path limit)).reads mw w
  | write path bytes next, w =>
    (next (w.write path bytes).1).reads mw (w.write path bytes).2
  | report e next, w => (next ()).reads mw (w.report mw e)
  | count name next, w => (next ()).reads mw (w.count name)

/-- An action in two parts reads what the first part reads, and then what the second does. -/
theorem reads_bind (a : Action α) (f : α → Action β) (w : World) :
    (a >>= f).reads mw w =
      a.reads mw w ++ (f (a.perform mw w).1).reads mw (a.perform mw w).2 := by
  show (a.bind f).reads mw w = _
  induction a generalizing w with
  | done a => rfl
  | read path limit next ih => exact congrArg (path :: ·) (ih _ _)
  | write path bytes next ih => exact ih _ _
  | report e next ih => exact ih _ _
  | count name next ih => exact ih _ _

/-- A second part that reads nothing adds nothing. -/
theorem reads_bind_of_quiet {f : α → Action β} (h : ∀ x w, (f x).reads mw w = []) (a : Action α)
    (w : World) : (a >>= f).reads mw w = a.reads mw w := by
  rw [reads_bind, h, List.append_nil]

end Action

/-! ### Attempts -/

namespace Attempt

def reads (a : Attempt α) (mw : Meanwhile) (w : World) : List String := (ExceptT.run a).reads mw w

@[simp] theorem reads_result (r : Except Failure α) : reads (liftM r : Attempt α) mw w = [] := rfl

@[simp] theorem reads_action (a : Action α) :
    reads (liftM a : Attempt α) mw w = a.reads mw w :=
  Action.reads_bind_of_quiet (fun _ _ => rfl) a w

/-- After a failure nothing more is read. -/
@[simp] theorem reads_bind (a : Attempt α) (f : α → Attempt β) :
    reads (a >>= f) mw w =
      reads a mw w ++
        match carryOut a mw w with
        | (.ok x, w) => reads (f x) mw w
        | (.error _, _) => [] := by
  refine (Action.reads_bind (ExceptT.run a) _ w).trans ?_
  unfold reads carryOut
  rcases (ExceptT.run a).perform mw w with ⟨r | x, w⟩
  · rfl
  · rfl

theorem reads_bind_of_quiet {f : α → Attempt β} (h : ∀ x w, reads (f x) mw w = [])
    (a : Attempt α) : reads (a >>= f) mw w = reads a mw w := by
  rw [reads_bind]
  rcases carryOut a mw w with ⟨r | x, w⟩
  · exact List.append_nil _
  · simp only [h, List.append_nil]

@[simp] theorem reads_discard (a : Attempt α) : reads (discard a) mw w = reads a mw w := by
  show reads (Function.const α PUnit.unit <$> a) mw w = _
  rw [← bind_pure_comp]
  exact reads_bind_of_quiet (fun _ _ => rfl) a

end Attempt

/-! ### Operations -/

namespace Operation

def reads (op : Operation σ α) (mw : Meanwhile) (machine : σ) (w : World) : List String :=
  (op.on machine).reads mw w

variable {machine : σ}

@[simp] theorem reads_get : reads (get : Operation σ σ) mw machine w = [] := rfl

@[simp] theorem reads_action (a : Action α) :
    reads (liftM a : Operation σ α) mw machine w = a.reads mw w := by
  show (Action.bind (Action.bind a _) _).reads mw w = _
  rw [Action.bind_bind]
  exact Action.reads_bind_of_quiet (fun _ _ => rfl) a w

@[simp] theorem reads_bind (op : Operation σ α) (f : α → Operation σ β) :
    reads (op >>= f) mw machine w =
      reads op mw machine w ++
        match carryOut op mw machine w with
        | ((.ok a, machine), w) => reads (f a) mw machine w
        | ((.error _, _), _) => [] := by
  refine (Action.reads_bind (op.on machine) _ w).trans ?_
  unfold reads carryOut
  rcases (op.on machine).perform mw w with ⟨⟨r | a, machine⟩, w⟩
  · rfl
  · rfl

theorem reads_bind_of_quiet {f : α → Operation σ β}
    (h : ∀ x machine w, reads (f x) mw machine w = []) (op : Operation σ α) :
    reads (op >>= f) mw machine w = reads op mw machine w := by
  rw [reads_bind]
  rcases carryOut op mw machine w with ⟨⟨r | x, machine⟩, w⟩
  · exact List.append_nil _
  · simp only [h, List.append_nil]

/-- An operation on a part reads what it reads on the part alone. -/
@[simp] theorem reads_within (op : Operation τ α) (part : τ) (whole : τ → σ) :
    reads (op.within part whole) mw machine w = reads op mw part w := by
  unfold within
  rw [reads_bind_of_quiet (fun _ _ _ => rfl), reads_action]
  rfl

end Operation

/-! ### Images and native machines -/

namespace Image

/-- The file is read once, also if it is too large. -/
theorem reads_fileBytes (path : String) (w : World) :
    (fileBytes path).reads mw w = [path] := by
  unfold fileBytes
  rw [Attempt.reads_bind_of_quiet, Attempt.reads_action]
  · rfl
  · -- What comes after the read is a result, whatever the file.
    rintro (cause | bytes) w
    · rfl
    · show Attempt.reads (if maxBytes < bytes.size then throw _ else pure _) mw w = []
      split <;> rfl

theorem reads_load (path : String) (w : World) : (load path).reads mw w = [path] := by
  unfold load
  rw [Attempt.reads_bind_of_quiet (fun _ _ => rfl), reads_fileBytes]

end Image

namespace NativeMachine

theorem reads_load (path : String) (w : World) : (load path).reads mw w = [path] := by
  unfold load
  rw [Attempt.reads_bind_of_quiet, Image.reads_load]
  intro image w
  rw [Attempt.reads_bind_of_quiet (fun _ _ => rfl), Attempt.reads_discard, Attempt.reads_result]

/-- The slot is filled by the first use, so the file is read in no other. -/
theorem reads_filled (machine : NativeMachine) (w : World) :
    machine.filled.reads mw w = if machine.isLoaded then [] else [machine.path] := by
  unfold filled isLoaded
  cases machine.slot with
  | some loaded => rfl
  | none =>
    refine (Action.reads_bind_of_quiet ?_ _ w).trans (reads_load machine.path w)
    rintro (cause | core) w
    · rfl
    · rfl

/-- An operation on the core reads nothing but what fills the slot. -/
theorem reads_withCore (use : Core → Core × α) (machine : NativeMachine) (w : World) :
    (withCore use).reads mw machine w = if machine.isLoaded then [] else [machine.path] := by
  unfold withCore
  -- Around the filling of the slot the core is used and put back, which reads nothing.
  rw [Operation.reads_bind, Operation.reads_get, Operation.carryOut_get, List.nil_append,
    ← reads_filled, ← Operation.reads_action]
  refine Operation.reads_bind_of_quiet ?_ _
  rintro (cause | core) machine w
  · rfl
  · rfl

end NativeMachine

theorem Machine.reads_reply_native (query : Query) (machine : NativeMachine) (w : World) :
    (reply query).reads mw (.native machine) w =
      if machine.isLoaded then [] else [machine.path] := by
  cases query
  all_goals
    -- The reply is the result of an operation of the native machine.
    refine (Operation.reads_bind_of_quiet (fun _ _ _ => rfl) _).trans ?_
    simp only [hash, status, execute, Operation.reads_bind, Operation.reads_get,
      Operation.carryOut_get, Operation.reads_within, List.nil_append]
    exact NativeMachine.reads_withCore _ machine w

/-! ### Fleets -/

namespace Scene

variable {name : String} {s : Scene}

def reads (s : Scene) (mw : Meanwhile) (deed : Deed) : List String :=
  (s.fleet.perform deed).reads mw s.world

/-- In a fleet, too, only the first query to a native machine reads its file. -/
theorem reads_ask_of_native {machine : NativeMachine}
    (h : s.fleet.get? name = some (.native machine)) (query : Query) :
    s.reads mw (.ask name query) = if machine.isLoaded then [] else [machine.path] := by
  simp only [reads, Fleet.perform, h]
  refine (Action.reads_bind_of_quiet ?_ _ _).trans (Machine.reads_reply_native query machine _)
  rintro ⟨cause | reply, machine⟩ w
  · rfl
  · rfl

theorem reads_copy (s : Scene) (name copy : String) : s.reads mw (.copy name copy) = [] := by
  simp only [reads, Fleet.perform]
  cases s.fleet.get? name <;> rfl

/-- To make a native machine reads nothing. -/
theorem reads_make_native (s : Scene) (name path : String) (warn : Bool) :
    s.reads mw (.make name path warn .native) = [] := rfl

end Scene

end StackMachine
