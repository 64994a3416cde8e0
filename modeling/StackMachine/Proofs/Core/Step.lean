import StackMachine.Core.Step
import StackMachine.Image.Validation

/-!
# What one instruction can do

A step comes to one of four things: it runs past the end of the code, it halts, it is blocked, or it
executes its instruction. `Core.Stepped` lists them with all that each of them changes, and
`Core.stepped` says that there are no others, so what a step keeps is shown by these four cases.

An instruction that is executed leads to its target or to the next position
(`Instruction.nextPc_cases`), and never makes the stack too deep (`Instruction.size_onStack_le`).
-/

namespace StackMachine

namespace Instruction

variable {i : Instruction} {depth : Nat}

/-- An instruction that is executed leads to its target or, if control can pass on from it, to the
next position. -/
theorem nextPc_cases (hhalt : i ≠ .halt) (hi : i.isBlocked depth = false) (pc : UInt64)
    (top : Option UInt64) :
    (∃ target, i.target? = some target ∧ i.nextPc pc top = target) ∨
      (i.fallsThrough = true ∧ i.nextPc pc top = pc + 1) := by
  cases i with
  | jump target => exact .inl ⟨target, rfl, rfl⟩
  | jumpIf target =>
    by_cases htop : top.getD 0 ≠ 0
    · exact .inl ⟨target, rfl, if_pos htop⟩
    · exact .inr ⟨rfl, if_neg htop⟩
  | halt => exact absurd rfl hhalt
  -- Blocked on every stack, so never executed.
  | error => cases hi
  | _ => exact .inr ⟨rfl, rfl⟩

/-- An operation on the top two values takes one of them away. -/
theorem size_combine (f : UInt64 → UInt64 → UInt64) {stack : Array UInt64} (h : 2 ≤ stack.size) :
    (combine f stack).size = stack.size - 1 := by
  simp only [combine, Array.size_push, Array.size_pop]
  omega

/-- Only instructions that are blocked on a full stack make the stack deeper. -/
theorem size_onStack_le {stack : Array UInt64} (hi : i.isBlocked stack.size = false)
    (h : stack.size ≤ Core.maxDepth) : (i.onStack stack).size ≤ Core.maxDepth := by
  cases i with
  | push v =>
    have hroom : ¬ Core.maxDepth ≤ stack.size := of_decide_eq_false hi
    rw [onStack, Array.size_push]
    omega
  | dup =>
    obtain ⟨-, hfull⟩ := Bool.or_eq_false_iff.mp hi
    have hroom : ¬ Core.maxDepth ≤ stack.size := of_decide_eq_false hfull
    rw [onStack, Array.size_push]
    omega
  | pop | jumpIf _ | log =>
    rw [onStack, Array.size_pop]
    omega
  | add | sub | mul =>
    have htwo : ¬ stack.size < 2 := of_decide_eq_false hi
    rw [onStack, size_combine _ (Nat.not_lt.mp htwo)]
    omega
  | swap =>
    rw [onStack, Array.size_swapIfInBounds]
    exact h
  | nop | jump _ | halt | error => exact h

end Instruction

namespace Core

/-- What a step can come to. -/
inductive Stepped (c : Core) : Core × Option Effect → Prop
  | pastEnd (h : c.code[c.pc.toNat]? = none) : Stepped c ({ c with status := .errorStop }, none)
  | halted (h : c.code[c.pc.toNat]? = some .halt) :
    Stepped c ({ c with status := .halted }, some ⟨Instruction.gas .halt, none⟩)
  | blocked {i : Instruction} (h : c.code[c.pc.toNat]? = some i)
    (hi : i.isBlocked c.stack.size = true) :
    Stepped c ({ c with status := .errorStop }, some ⟨i.gas, none⟩)
  | executed {i : Instruction} (h : c.code[c.pc.toNat]? = some i) (hhalt : i ≠ .halt)
    (hi : i.isBlocked c.stack.size = false) :
    Stepped c ({ c with pc := i.nextPc c.pc c.stack.back?, stack := i.onStack c.stack },
      some ⟨i.gas, i.logged? c.stack.back?⟩)

/-- A step comes to nothing else. -/
theorem stepped (c : Core) : c.Stepped c.step := by
  unfold step
  cases h : c.code[c.pc.toNat]? with
  | none => exact .pastEnd h
  | some i =>
    simp only
    by_cases hhalt : i = .halt
    · subst hhalt
      rw [if_pos rfl]
      exact .halted h
    · rw [if_neg hhalt]
      by_cases hi : i.isBlocked c.stack.size = true
      · rw [if_pos hi]
        exact .blocked h hi
      · rw [if_neg hi]
        exact .executed h hhalt (Bool.not_eq_true _ ▸ hi)

/-- A step runs past the end exactly if there is no instruction. -/
theorem step_snd_eq_none_iff (c : Core) : c.step.2 = none ↔ c.code.size ≤ c.pc.toNat := by
  rw [← Array.getElem?_eq_none_iff]
  have h := c.stepped
  -- Which of the four the step is decides about its effect and about the code alike.
  generalize c.step = r at h ⊢
  cases h with
  | pastEnd h => simp only [h]
  | halted h => simp [h]
  | blocked h _ => simp [h]
  | executed h _ _ => simp [h]

end Core

end StackMachine
