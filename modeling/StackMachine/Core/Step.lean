import StackMachine.Core.Basic

/-!
# One instruction

What one instruction does to a core. An instruction is blocked at a stack depth if it asks for more
operands than there are, or would push onto a full stack; whether it is blocked is decided before
anything changes, so a fault leaves the program counter and the whole stack as they were. Arithmetic
is modulo 2^64.

A step that runs past the end of the code executes nothing: it has no `Effect`.
-/

namespace StackMachine

namespace Instruction

/-- Whether the instruction cannot be executed on a stack of the given depth. -/
def isBlocked (i : Instruction) (depth : Nat) : Bool :=
  match i with
  | nop | jump _ | halt => false
  | push _ => Core.maxDepth ≤ depth
  | pop | jumpIf _ | log => depth < 1
  | dup => depth < 1 || Core.maxDepth ≤ depth
  | swap | add | sub | mul => depth < 2
  | error => true

/-- Where control goes from `pc`, given the top of the stack. -/
def nextPc (i : Instruction) (pc : UInt64) (top : Option UInt64) : UInt64 :=
  match i with
  | jump target => target
  | jumpIf target => if top.getD 0 ≠ 0 then target else pc + 1
  | _ => pc + 1

def logged? (i : Instruction) (top : Option UInt64) : Option UInt64 :=
  match i with
  | log => top
  | _ => none

@[inline] def combine (f : UInt64 → UInt64 → UInt64) (stack : Array UInt64) : Array UInt64 :=
  let upper := stack.back?.getD 0
  let stack := stack.pop
  let lower := stack.back?.getD 0
  stack.pop.push (f lower upper)

/-- The stack after an instruction that is not blocked. -/
def onStack (i : Instruction) (stack : Array UInt64) : Array UInt64 :=
  match i with
  | nop | jump _ | halt | error => stack
  | push v => stack.push v
  | pop | jumpIf _ | log => stack.pop
  | dup =>
    let top := stack.back?.getD 0
    stack.push top
  | swap =>
    let n := stack.size
    stack.swapIfInBounds (n - 1) (n - 2)
  | add => combine (· + ·) stack
  | sub => combine (· - ·) stack
  | mul => combine (· * ·) stack

end Instruction

/-- What the execution of an instruction adds to the account of a run. -/
structure Effect where
  gas : UInt64
  logged? : Option UInt64
  deriving DecidableEq

namespace Core

def step (c : Core) : Core × Option Effect :=
  match c.code[c.pc.toNat]? with
  | none => ({ c with status := .errorStop }, none)
  | some i =>
    if i = .halt then ({ c with status := .halted }, some ⟨i.gas, none⟩)
    else if i.isBlocked c.stack.size then ({ c with status := .errorStop }, some ⟨i.gas, none⟩)
    else
      let top := c.stack.back?
      ({ c with pc := i.nextPc c.pc top, stack := i.onStack c.stack },
        some ⟨i.gas, i.logged? top⟩)

end Core

end StackMachine
