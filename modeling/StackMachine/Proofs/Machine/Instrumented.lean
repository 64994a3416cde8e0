import StackMachine.Machine.Instrumented
import StackMachine.Proofs.Machine.Native
import StackMachine.Proofs.Machine.Reference

/-!
# What instrumented machines do

`check_carryOut` gives the comparison of the two halves in full, whatever they are. The halves are
in *lockstep* if the native one has its program and is in the same state as the reference one. Then
every comparison agrees, and an operation is that of the reference half, made on both
(`check_of_lockstep`, `execute_of_lockstep`). A load ends in lockstep unless somebody changes the
file while it goes on (`load_of_unchanged`).
-/

namespace StackMachine.InstrumentedMachine

variable {mw : Meanwhile} {α : Type}

/-! ### The halves -/

/-- An operation on the reference half leaves the native half alone. -/
@[simp] theorem onReference_carryOut (op : Operation ReferenceMachine α)
    (machine : InstrumentedMachine) (w : World) :
    (onReference op).carryOut mw machine w =
      (((op.carryOut mw machine.reference w).1.1,
        { machine with reference := (op.carryOut mw machine.reference w).1.2 }),
        (op.carryOut mw machine.reference w).2) := by
  unfold onReference
  rw [Operation.carryOut_bind, Operation.carryOut_get]
  exact Operation.carryOut_within op machine.reference _

/-- And the other way round. -/
@[simp] theorem onNative_carryOut (op : Operation NativeMachine α)
    (machine : InstrumentedMachine) (w : World) :
    (onNative op).carryOut mw machine w =
      (((op.carryOut mw machine.native w).1.1,
        { machine with native := (op.carryOut mw machine.native w).1.2 }),
        (op.carryOut mw machine.native w).2) := by
  unfold onNative
  rw [Operation.carryOut_bind, Operation.carryOut_get]
  exact Operation.carryOut_within op machine.native _

/-- A divergence is reported, and changes neither half. -/
@[simp] theorem diverge_carryOut (context expected actual : String)
    (machine : InstrumentedMachine) (w : World) :
    (diverge context expected actual : Operation InstrumentedMachine α).carryOut mw machine w =
      ((.error (.divergence context expected actual), machine),
        w.report mw (.diverged context expected actual)) := by
  unfold diverge
  rw [Operation.carryOut_bind, Operation.carryOut_action]
  rfl

/-! ### The comparison -/

/-- The texts of what two cores differ in, as far as a comparison sees it: the hashes, or else the
statuses. -/
def difference? (expected actual : Core) : Option (String × String) :=
  if expected.hash ≠ actual.hash then some (expected.hash.toHex, actual.hash.toHex)
  else if expected.status ≠ actual.status then
    some (expected.status.display, actual.status.display)
  else none

@[simp] theorem difference?_self (core : Core) : difference? core core = none := by
  simp only [difference?, ne_eq, not_true_eq_false, if_false]

/-- A comparison makes the native half look at its file, if it has not done so. -/
theorem check_carryOut (context : String) (machine : InstrumentedMachine) (w : World) :
    (check context).carryOut mw machine w =
      let looked := w.reportAll mw (machine.native.fillEvents w.files)
      match machine.native.content w.files with
      | .error cause =>
        ((.error (.loadFailed machine.native.path cause),
          { machine with native := machine.native.holding (.error cause) }), looked)
      | .ok core =>
        match difference? machine.reference.core core with
        | some (expected, actual) =>
          ((.error (.divergence context expected actual),
            { machine with native := machine.native.holding (.ok core) }),
            looked.report mw (.diverged context expected actual))
        | none =>
          ((.ok machine.reference.core.hash,
            { machine with native := machine.native.holding (.ok core) }), looked) := by
  unfold check NativeMachine.hash NativeMachine.status
  simp only [Operation.carryOut_bind, onReference_carryOut, onNative_carryOut,
    ReferenceMachine.hash_carryOut, NativeMachine.withCore_carryOut]
  cases machine.native.content w.files with
  | error cause => rfl
  | ok core =>
    -- The first use has filled the slot, so the second one finds the same core there.
    have hslot : (machine.native.holding (.ok core)).slot = some (.ok core) := rfl
    simp only [difference?]
    by_cases hhash : machine.reference.core.hash = core.hash
    · simp only [ne_eq, hhash, not_true_eq_false, if_false, Operation.carryOut_bind,
        onReference_carryOut, onNative_carryOut, ReferenceMachine.status_carryOut,
        NativeMachine.withCore_carryOut, NativeMachine.content_of_slot hslot,
        NativeMachine.fillEvents_of_slot hslot, World.reportAll_nil]
      by_cases hstatus : machine.reference.core.status = core.status
      · simp only [hstatus, not_true_eq_false, if_false]
        rfl
      · simp only [hstatus, not_false_eq_true, if_true, diverge_carryOut]
        rfl
    · simp only [ne_eq, hhash, not_false_eq_true, if_true, diverge_carryOut]

/-- Halves that answer from the same state agree, and the native half keeps that state. -/
theorem check_of_same {machine : InstrumentedMachine} {w : World}
    (h : machine.native.content w.files = .ok machine.reference.core) (context : String) :
    (check context).carryOut mw machine w =
      ((.ok machine.reference.core.hash,
        { machine with native := machine.native.holding (.ok machine.reference.core) }),
        w.reportAll mw (machine.native.fillEvents w.files)) := by
  simp only [check_carryOut, h, difference?_self]

/-! ### Lockstep -/

/-- The native half has its program, and is in the same state as the reference half. -/
def Lockstep (machine : InstrumentedMachine) : Prop :=
  machine.native.slot = some (.ok machine.reference.core)

/-- In lockstep a comparison agrees and changes nothing. -/
theorem check_of_lockstep {machine : InstrumentedMachine} (h : machine.Lockstep)
    (context : String) (w : World) :
    (check context).carryOut mw machine w = ((.ok machine.reference.core.hash, machine), w) := by
  have hheld : machine.native.holding (.ok machine.reference.core) = machine.native :=
    congrArg (NativeMachine.mk machine.native.path) h.symm
  rw [check_of_same (NativeMachine.content_of_slot h w.files), hheld,
    NativeMachine.fillEvents_of_slot h, World.reportAll_nil]

/-- In lockstep the status is that of the reference half. -/
theorem status_of_lockstep {machine : InstrumentedMachine} (h : machine.Lockstep) (w : World) :
    status.carryOut mw machine w = ((.ok machine.reference.core.status, machine), w) := by
  unfold status
  rw [Operation.carryOut_bind, Operation.carryOut_discard, check_of_lockstep h]
  rfl

/-- A machine in lockstep after one more run, which leaves either half in the same state. -/
def ran (machine : InstrumentedMachine) (core : Core) : InstrumentedMachine where
  reference := { machine.reference with core }
  native := machine.native.holding (.ok core)
  runs := machine.runs + 1

/-- In lockstep both halves make the run, which is checked and counted. -/
theorem execute_of_lockstep {machine : InstrumentedMachine} (h : machine.Lockstep)
    (maxSteps : UInt64) (w : World) :
    (execute maxSteps).carryOut mw machine w =
      ((.ok (machine.reference.core.run maxSteps).2,
        machine.ran (machine.reference.core.run maxSteps).1),
        w.reportAll mw (machine.reference.runEvents maxSteps)) := by
  unfold execute NativeMachine.execute
  simp only [Operation.carryOut_bind, onReference_carryOut, onNative_carryOut,
    ReferenceMachine.execute_carryOut, NativeMachine.withCore_carryOut,
    NativeMachine.content_of_slot h, NativeMachine.fillEvents_of_slot h, World.reportAll_nil,
    ne_eq, not_true_eq_false, if_false, Operation.carryOut_discard]
  -- Both halves have made the same run, so the comparison after it is again one in lockstep.
  have hlockstep : Lockstep {
      reference := { machine.reference with core := (machine.reference.core.run maxSteps).1 }
      native := machine.native.holding (.ok (machine.reference.core.run maxSteps).1)
      runs := machine.runs } := rfl
  rw [check_of_lockstep hlockstep]
  rfl

/-! ### Loading -/

/-- The load of the reference half, then the first comparison. -/
theorem load_carryOut (path : String) (warn : Bool) (w : World) :
    (load path warn).carryOut mw w =
      match w.files.program path with
      | .error cause => (.error cause, w)
      | .ok (image, findings) =>
        match (check "load").carryOut mw ⟨⟨path, warn, .ofImage image⟩, .new path, 0⟩
          (w.reportAll mw (ReferenceMachine.loadEvents path warn image findings)) with
        | ((.ok _, machine), w) => (.ok machine, w.report mw (.instrumentedLoaded path))
        | ((.error cause, _), w) => (.error cause, w) := by
  unfold load
  rw [Attempt.carryOut_bind, ReferenceMachine.load_carryOut]
  rcases w.files.program path with cause | ⟨image, findings⟩
  · rfl
  · simp only [Attempt.carryOut_bind, Attempt.carryOut_action]
    unfold Operation.carryOut
    rcases Action.perform mw _ _ with ⟨⟨cause | digest, machine⟩, w'⟩
    · rfl
    · rfl

/-- A machine with both halves in a given state, which has made no run yet. -/
def paired (path : String) (warn : Bool) (core : Core) : InstrumentedMachine where
  reference := ⟨path, warn, core⟩
  native := ⟨path, some (.ok core)⟩
  runs := 0

def loadEvents (path : String) (warn : Bool) (image : Image) (findings : List Finding) :
    List Event :=
  ReferenceMachine.loadEvents path warn image findings ++
    [.nativeLoaded path image.code.size, .instrumentedLoaded path]

/-- If the file is unchanged when the reference half has been loaded, the load succeeds exactly if
the file holds a valid program. -/
theorem load_of_unchanged {path : String} {warn : Bool} {w : World}
    (h : ((ReferenceMachine.load path warn).carryOut mw w).2.files.read path = w.files.read path) :
    (load path warn).carryOut mw w =
      match w.files.program path with
      | .error cause => (.error cause, w)
      | .ok (image, findings) =>
        (.ok (paired path warn (.ofImage image)),
          w.reportAll mw (loadEvents path warn image findings)) := by
  rw [ReferenceMachine.load_carryOut] at h
  rw [load_carryOut]
  cases hprogram : w.files.program path with
  | error cause => rfl
  | ok found =>
    obtain ⟨image, findings⟩ := found
    rw [hprogram] at h
    -- The native half finds the bytes that the reference half has found.
    have hagain := (Files.program_congr h).trans hprogram
    have hcontent : (NativeMachine.new path).content
        (w.reportAll mw (ReferenceMachine.loadEvents path warn image findings)).files =
          .ok (.ofImage image) := by
      rw [NativeMachine.content_new, hagain]
      rfl
    simp only
    rw [check_of_same hcontent, NativeMachine.fillEvents_new hagain, loadEvents,
      World.reportAll_append]
    rfl

theorem lockstep_ran (machine : InstrumentedMachine) (core : Core) :
    (machine.ran core).Lockstep := rfl

end StackMachine.InstrumentedMachine
