import StackMachine.Core.Run
import StackMachine.Machine.Attempt

/-!
# Native machines

A native machine is made without looking at its file. The first operation reads the file, once:
what it finds then, a program or a failure, is kept, and every later operation answers from it.
There is no warn mode; a failure to load is reported when it happens.
-/

namespace StackMachine

/-- A machine that gets its program when it is first used. The slot is empty until then. -/
structure NativeMachine where
  path : String
  slot : Option (Except Failure Core)

namespace NativeMachine

def new (path : String) : NativeMachine := ⟨path, none⟩

/-- Whether the file has been looked at, with success or without. -/
def isLoaded (machine : NativeMachine) : Bool := machine.slot.isSome

def load (path : String) : Attempt Core := do
  let image ← Image.load path
  discard image.validate
  report (.nativeLoaded path image.code.size)
  return .ofImage image

/-- What a slot holds once the machine is used. -/
def filled (machine : NativeMachine) : Action (Except Failure Core) := do
  match machine.slot with
  | some loaded => return loaded
  | none =>
    let loaded ← (load machine.path).run
    if let .error cause := loaded then report (.nativeFailed machine.path cause)
    return loaded

/-- An operation on the core. It fails if the program could not be loaded. -/
def withCore {α : Type} (use : Core → Core × α) : Operation NativeMachine α := do
  let machine ← get
  match ← machine.filled with
  | .ok core =>
    let (core, a) := use core
    set { machine with slot := some (.ok core) }
    return a
  | .error cause =>
    set { machine with slot := some (.error cause) }
    throw (.loadFailed machine.path cause)

def hash : Operation NativeMachine Digest := withCore fun core => (core, core.hash)

def status : Operation NativeMachine Status := withCore fun core => (core, core.status)

def execute (maxSteps : UInt64) : Operation NativeMachine Assertion :=
  withCore fun core => core.run maxSteps

end NativeMachine

end StackMachine
