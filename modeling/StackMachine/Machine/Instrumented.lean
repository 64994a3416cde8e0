import StackMachine.Machine.Native
import StackMachine.Machine.Reference

/-!
# Instrumented machines

An instrumented machine runs a reference machine and a native machine over the same file side by
side. Every operation compares the two, by hash and by status, and a run also by its assertions; a
difference is reported and makes the operation fail. The two read the file one after the other, so
a file that is replaced in between is noticed by the comparison that completes the load.
-/

namespace StackMachine

/-- A reference machine and a native machine side by side, and the number of runs in which they
agreed, as a word. -/
structure InstrumentedMachine where
  reference : ReferenceMachine
  native : NativeMachine
  runs : UInt64

namespace InstrumentedMachine

def onReference {α : Type} (op : Operation ReferenceMachine α) :
    Operation InstrumentedMachine α := do
  let machine ← get
  op.within machine.reference fun reference => { machine with reference }

def onNative {α : Type} (op : Operation NativeMachine α) : Operation InstrumentedMachine α := do
  let machine ← get
  op.within machine.native fun native => { machine with native }

def diverge {α : Type} (context expected actual : String) : Operation InstrumentedMachine α := do
  report (.diverged context expected actual)
  throw (.divergence context expected actual)

/-- Compares hash and status of the two halves; gives the hash on which they agree. -/
def check (context : String) : Operation InstrumentedMachine Digest := do
  let expected ← onReference ReferenceMachine.hash
  let actual ← onNative NativeMachine.hash
  if expected ≠ actual then
    diverge context expected.toHex actual.toHex
  else
    let expectedStatus ← onReference ReferenceMachine.status
    let actualStatus ← onNative NativeMachine.status
    if expectedStatus ≠ actualStatus then
      diverge context expectedStatus.display actualStatus.display
    else return expected

def load (path : String) (warn : Bool) : Attempt InstrumentedMachine := do
  let reference ← ReferenceMachine.load path warn
  let (checked, machine) ← (check "load").on ⟨reference, .new path, 0⟩
  discard checked
  report (.instrumentedLoaded path)
  return machine

def hash : Operation InstrumentedMachine Digest := check "hash"

def status : Operation InstrumentedMachine Status := do
  discard (check "status")
  onReference ReferenceMachine.status

def execute (maxSteps : UInt64) : Operation InstrumentedMachine Assertion := do
  let expected ← onReference (ReferenceMachine.execute maxSteps)
  let actual ← onNative (NativeMachine.execute maxSteps)
  if expected ≠ actual then
    diverge "execute" expected.display actual.display
  else
    discard (check "execute")
    modify fun machine => { machine with runs := machine.runs + 1 }
    return expected

end InstrumentedMachine

end StackMachine
