import StackMachine.Machine.Instrumented

/-!
# Machines

A machine of any kind. What can be asked of every machine is answered here by the kind it is of;
what only one kind knows about itself is in `Machine.detail`.
-/

namespace StackMachine

inductive Machine
  | reference (machine : ReferenceMachine)
  | native (machine : NativeMachine)
  | instrumented (machine : InstrumentedMachine)

/-- What only a machine of one kind knows about itself: whether it is in warn mode, whether its
file has been looked at, or in how many runs its halves have agreed. -/
inductive Machine.Detail
  | warn (on : Bool)
  | loaded (yes : Bool)
  | runs (number : Nat)
  deriving DecidableEq

namespace Machine

def backend : Machine → Backend
  | reference _ => .reference
  | native _ => .native
  | instrumented _ => .instrumented

def path : Machine → String
  | reference machine => machine.path
  | native machine => machine.path
  | instrumented machine => machine.reference.path

def detail : Machine → Detail
  | reference machine => .warn machine.warn
  | native machine => .loaded machine.isLoaded
  | instrumented machine => .runs machine.runs.toNat

def hash : Operation Machine Digest := do
  match ← get with
  | reference machine => ReferenceMachine.hash.within machine .reference
  | native machine => NativeMachine.hash.within machine .native
  | instrumented machine => InstrumentedMachine.hash.within machine .instrumented

def status : Operation Machine Status := do
  match ← get with
  | reference machine => ReferenceMachine.status.within machine .reference
  | native machine => NativeMachine.status.within machine .native
  | instrumented machine => InstrumentedMachine.status.within machine .instrumented

def execute (maxSteps : UInt64) : Operation Machine Assertion := do
  match ← get with
  | reference machine => (ReferenceMachine.execute maxSteps).within machine .reference
  | native machine => (NativeMachine.execute maxSteps).within machine .native
  | instrumented machine => (InstrumentedMachine.execute maxSteps).within machine .instrumented

end Machine

end StackMachine
