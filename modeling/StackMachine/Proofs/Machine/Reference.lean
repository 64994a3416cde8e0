import StackMachine.Machine.Reference
import StackMachine.Proofs.Image.File

/-!
# What reference machines do

A reference machine gets its program when it is loaded, and never fails after that. Its operations
are those of its core; what they do to the world are reports, and these are given here as lists of
events.
-/

namespace StackMachine.ReferenceMachine

variable {mw : Meanwhile}

def loadEvents (path : String) (warn : Bool) (image : Image) (findings : List Finding) :
    List Event :=
  (if warn then findings.map (.oddity path) else []) ++ [.referenceLoaded path image.code.size]

/-- A load succeeds exactly if the file holds a valid program. -/
theorem load_carryOut (path : String) (warn : Bool) (w : World) :
    (load path warn).carryOut mw w =
      match w.files.program path with
      | .error cause => (.error cause, w)
      | .ok (image, findings) =>
        (.ok ⟨path, warn, .ofImage image⟩,
          w.reportAll mw (loadEvents path warn image findings)) := by
  unfold load Files.program
  rw [Attempt.carryOut_bind, Image.load_carryOut]
  cases w.files.image path with
  | error cause => rfl
  | ok image =>
    simp only [Attempt.carryOut_bind, Attempt.carryOut_result]
    cases image.validate with
    | error cause => rfl
    | ok findings =>
      cases warn with
      | false => rfl
      | true =>
        -- The findings are reported one by one, before the load itself is.
        simp only [if_true, Attempt.carryOut_bind, Attempt.carryOut_forM_report,
          Attempt.carryOut_action, Except.map, loadEvents, World.reportAll_append]
        rfl

/-- If nobody else is at work, the file is after a load what it was before. -/
theorem load_nothing_read (path : String) (warn : Bool) (w : World) :
    ((load path warn).carryOut .nothing w).2.files.read path = w.files.read path := by
  rw [load_carryOut]
  rcases w.files.program path with cause | ⟨image, findings⟩
  · rfl
  · rw [World.reportAll_nothing_files]

@[simp] theorem hash_carryOut (machine : ReferenceMachine) (w : World) :
    hash.carryOut mw machine w = ((.ok machine.core.hash, machine), w) := rfl

@[simp] theorem status_carryOut (machine : ReferenceMachine) (w : World) :
    status.carryOut mw machine w = ((.ok machine.core.status, machine), w) := rfl

/-- The reports of a run: in warn mode, that the program has stopped with an error in it. -/
def runEvents (machine : ReferenceMachine) (maxSteps : UInt64) : List Event :=
  let core := (machine.core.run maxSteps).1
  if machine.warn ∧ machine.core.status = .extensive ∧ core.status = .errorStop then
    [.stoppedWithError machine.path core.pc]
  else []

/-- A run never fails, and changes nothing but the core. -/
@[simp] theorem execute_carryOut (maxSteps : UInt64) (machine : ReferenceMachine) (w : World) :
    (execute maxSteps).carryOut mw machine w =
      ((.ok (machine.core.run maxSteps).2, { machine with core := (machine.core.run maxSteps).1 }),
        w.reportAll mw (machine.runEvents maxSteps)) := by
  unfold execute runEvents
  simp only [Operation.carryOut_bind, Operation.carryOut_get, Operation.carryOut_set]
  split <;> rfl

end StackMachine.ReferenceMachine
