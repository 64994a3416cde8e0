import StackMachine.Core.Run
import StackMachine.Machine.Attempt

/-!
# Reference machines

A reference machine reads and checks its program when it is made. In warn mode it reports what is
odd about the program, and later that the program has stopped with an error, in the one run in
which that happens.
-/

namespace StackMachine

/-- A machine that has its program from the start. -/
structure ReferenceMachine where
  path : String
  warn : Bool
  core : Core
  deriving DecidableEq

namespace ReferenceMachine

def load (path : String) (warn : Bool) : Attempt ReferenceMachine := do
  let image ← Image.load path
  let findings ← image.validate
  if warn then findings.forM fun finding => report (.oddity path finding)
  report (.referenceLoaded path image.code.size)
  return { path, warn, core := .ofImage image }

def hash : Operation ReferenceMachine Digest := return (← get).core.hash

def status : Operation ReferenceMachine Status := return (← get).core.status

def execute (maxSteps : UInt64) : Operation ReferenceMachine Assertion := do
  let machine ← get
  let (core, assertion) := machine.core.run maxSteps
  set { machine with core }
  if machine.warn ∧ machine.core.status = .extensive ∧ core.status = .errorStop then
    report (.stoppedWithError machine.path core.pc)
  return assertion

end ReferenceMachine

end StackMachine
