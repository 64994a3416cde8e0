import StackMachine.Machine.Native
import StackMachine.Proofs.Image.File

/-!
# What native machines do

A native machine answers from what its slot holds, or will hold once it is used:
`NativeMachine.content` is that, as a function of the files. An operation leaves it in the slot,
changed by the operation if it is a core, and unchanged if it is a failure.
-/

namespace StackMachine.NativeMachine

variable {mw : Meanwhile}

/-- What a machine answers from if it is used while the files are as given. -/
def content (machine : NativeMachine) (files : Files) : Except Failure Core :=
  match machine.slot with
  | some loaded => loaded
  | none => (files.program machine.path).map fun found => .ofImage found.1

/-- The reports of a use while the files are as given. Only the first use makes any. -/
def fillEvents (machine : NativeMachine) (files : Files) : List Event :=
  match machine.slot with
  | some _ => []
  | none =>
    match files.program machine.path with
    | .error cause => [.nativeFailed machine.path cause]
    | .ok (image, _) => [.nativeLoaded machine.path image.code.size]

theorem content_of_slot {machine : NativeMachine} {loaded : Except Failure Core}
    (h : machine.slot = some loaded) (files : Files) : machine.content files = loaded := by
  simp only [content, h]

theorem fillEvents_of_slot {machine : NativeMachine} {loaded : Except Failure Core}
    (h : machine.slot = some loaded) (files : Files) : machine.fillEvents files = [] := by
  simp only [fillEvents, h]

theorem content_new (path : String) (files : Files) :
    (new path).content files = (files.program path).map fun found => .ofImage found.1 := rfl

theorem fillEvents_new {path : String} {files : Files} {image : Image} {findings : List Finding}
    (h : files.program path = .ok (image, findings)) :
    (new path).fillEvents files = [.nativeLoaded path image.code.size] := by
  simp only [fillEvents, new, h]

/-- A machine that has been used, with what its slot holds now. -/
def holding (machine : NativeMachine) (loaded : Except Failure Core) : NativeMachine :=
  { machine with slot := some loaded }

/-- A native load validates the program, too, but makes nothing of the findings. -/
theorem load_carryOut (path : String) (w : World) :
    (load path).carryOut mw w =
      match w.files.program path with
      | .error cause => (.error cause, w)
      | .ok (image, _) =>
        (.ok (.ofImage image), w.report mw (.nativeLoaded path image.code.size)) := by
  unfold load Files.program
  rw [Attempt.carryOut_bind, Image.load_carryOut]
  cases w.files.image path with
  | error cause => rfl
  | ok image =>
    simp only [Attempt.carryOut_bind, Attempt.carryOut_discard, Attempt.carryOut_result]
    cases image.validate <;> rfl

/-- To fill the slot comes to its content, whether it was full before or not. -/
theorem filled_perform (machine : NativeMachine) (w : World) :
    machine.filled.perform mw w =
      (machine.content w.files, w.reportAll mw (machine.fillEvents w.files)) := by
  unfold filled content fillEvents
  cases machine.slot with
  | some loaded => rfl
  | none =>
    have hload : (load machine.path).run.perform mw w = _ := load_carryOut machine.path w
    simp only [Action.perform_bind, hload]
    cases w.files.program machine.path <;> rfl

/-- An operation on the core answers from the content, and leaves it behind. -/
theorem withCore_carryOut {α : Type} (use : Core → Core × α) (machine : NativeMachine) (w : World) :
    (withCore use).carryOut mw machine w =
      (match machine.content w.files with
        | .ok core => (.ok (use core).2, machine.holding (.ok (use core).1))
        | .error cause =>
          (.error (.loadFailed machine.path cause), machine.holding (.error cause)),
        w.reportAll mw (machine.fillEvents w.files)) := by
  unfold withCore
  simp only [Operation.carryOut_bind, Operation.carryOut_get, Operation.carryOut_action,
    filled_perform]
  cases machine.content w.files <;> rfl

end StackMachine.NativeMachine
