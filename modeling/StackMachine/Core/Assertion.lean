import StackMachine.Digest.Text
import StackMachine.Text.Display

/-!
# Assertions

The summary of one bounded run of a machine: the hashes of the states before and after, the number
of instructions executed, the gas they cost, and the values they logged.
-/

namespace StackMachine

structure Assertion where
  beforeHash : Digest
  afterHash : Digest
  numSteps : UInt64
  numGas : UInt64
  logs : Array UInt64
  deriving DecidableEq

/-- An assertion on one line, as it is shown when two of them disagree. -/
def Assertion.display (a : Assertion) : String :=
  "Assertion \x7b before_hash: " ++ Bracketed.bytes a.beforeHash.toList ++
    ", after_hash: " ++ Bracketed.bytes a.afterHash.toList ++
    ", num_steps: " ++ toString a.numSteps.toNat ++
    ", num_gas: " ++ toString a.numGas.toNat ++
    ", logs: " ++ Bracketed.words a.logs.toList ++ " \x7d"

end StackMachine
