import StackMachine.Core.Assertion
import StackMachine.Core.Step

/-!
# Bounded runs

A run executes instructions until the core is no longer extensive or a number of steps is used up,
and sums up what they did. Running past the end of the code stops the core but counts neither as a
step nor as gas.
-/

namespace StackMachine

structure Tally where
  steps : UInt64
  gas : UInt64
  logs : Array UInt64
  deriving DecidableEq

namespace Tally

def zero : Tally := ⟨0, 0, #[]⟩

def add (t : Tally) (e : Effect) : Tally where
  steps := t.steps + 1
  gas := t.gas + e.gas
  logs := match e.logged? with
    | some v => t.logs.push v
    | none => t.logs

end Tally

namespace Core

/-- Executes at most `n` more instructions. -/
def advance : Nat → Core → Tally → Core × Tally
  | 0, c, t => (c, t)
  | n + 1, c, t =>
    if c.status = .extensive then
      match c.step with
      | (c, some e) => advance n c (t.add e)
      | (c, none) => (c, t)
    else (c, t)

/-- Runs until the core stops or `maxSteps` instructions have been executed. -/
def run (maxSteps : UInt64) (c : Core) : Core × Assertion :=
  let before := c.hash
  let (c, t) := advance maxSteps.toNat c .zero
  (c, { beforeHash := before, afterHash := c.hash, numSteps := t.steps, numGas := t.gas,
        logs := t.logs })

end Core

end StackMachine
