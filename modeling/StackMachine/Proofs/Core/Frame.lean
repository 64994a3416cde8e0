import StackMachine.Proofs.Core.Stopping

/-!
# What lies underneath a stack

An instruction that finds its operands looks at no more than these, so what lies underneath them
stays as it is and decides nothing. Only the limit of the stack asks for the whole depth. So a core
with more values at the bottom of its stack runs like the one without them (`Core.run_onTopOf`), as
long as the latter never finds too few values, and the values underneath leave room for every depth
that it needs.
-/

namespace StackMachine

namespace Instruction

variable {i : Instruction} {base stack : Array UInt64} {depth below : Nat}

/-! ### Room -/

/-- The depth that a stack of the given depth must be able to have for an instruction. -/
def depthNeeded (i : Instruction) (depth : Nat) : Nat := if i.deepens then depth + 1 else depth

/-- No instruction needs less room than its stack takes. -/
theorem le_depthNeeded (i : Instruction) (depth : Nat) : depth ≤ i.depthNeeded depth := by
  unfold depthNeeded
  split <;> omega

/-- Values underneath add to the room that is needed, and no more. -/
theorem depthNeeded_add (i : Instruction) (below depth : Nat) :
    i.depthNeeded (below + depth) = below + i.depthNeeded depth := by
  unfold depthNeeded
  split <;> rfl

theorem not_obstructed (hoperands : i.operands ≤ depth)
    (hroom : i.depthNeeded depth ≤ Core.maxDepth) : ¬ i.Obstructed depth := by
  rintro (hfew | ⟨hdeepens, hfull⟩)
  · omega
  · rw [depthNeeded, if_pos hdeepens, hfull] at hroom
    exact absurd hroom (Nat.not_succ_le_self _)

/-- With its operands at hand and room for what it needs, an instruction is blocked with values
underneath exactly if it is blocked without them: if it is an error. -/
theorem isBlocked_add (hoperands : i.operands ≤ depth)
    (hroom : below + i.depthNeeded depth ≤ Core.maxDepth) :
    i.isBlocked (below + depth) = i.isBlocked depth := by
  have hdeep : i.depthNeeded (below + depth) ≤ Core.maxDepth := by
    rw [depthNeeded_add]
    exact hroom
  have hdepth := i.le_depthNeeded (below + depth)
  have habove : ¬ i.Obstructed (below + depth) := not_obstructed (by omega) hdeep
  have halone : ¬ i.Obstructed depth := not_obstructed hoperands (by omega)
  -- With no obstacle on either side, only an error is left that blocks.
  rw [Bool.eq_iff_iff, isBlocked_iff (by omega), isBlocked_iff (by omega)]
  simp only [habove, halone]

/-! ### The values on top -/

/-- Two values lie on top. -/
theorem exists_eq_push_push (h : 2 ≤ stack.size) :
    ∃ (rest : Array UInt64) (lower upper : UInt64), stack = (rest.push lower).push upper := by
  have hsome : stack.size ≠ 0 := Nat.ne_of_gt (Nat.le_of_succ_le h)
  obtain ⟨rest, upper, rfl⟩ := Array.eq_push_of_size_ne_zero hsome
  rw [Array.size_push] at h
  have hmore : rest.size ≠ 0 := Nat.ne_of_gt (Nat.le_of_succ_le_succ h)
  obtain ⟨rest, lower, rfl⟩ := Array.eq_push_of_size_ne_zero hmore
  exact ⟨rest, lower, upper, rfl⟩

/-- What is combined is the top two, the lower one first. -/
theorem combine_push_push (f : UInt64 → UInt64 → UInt64) (rest : Array UInt64)
    (lower upper : UInt64) :
    combine f ((rest.push lower).push upper) = rest.push (f lower upper) := by
  simp [combine]

theorem onStack_swap_push_push (rest : Array UInt64) (lower upper : UInt64) :
    swap.onStack ((rest.push lower).push upper) = (rest.push upper).push lower := by
  simp only [onStack, Array.size_push, Nat.add_sub_cancel]
  ext j hj hj'
  · simp
  -- Only the two places on top are touched; `grind` goes through the positions.
  · grind

/-- The values underneath the top two have no part in it. -/
theorem combine_append (f : UInt64 → UInt64 → UInt64) (base : Array UInt64)
    (h : 2 ≤ stack.size) : combine f (base ++ stack) = base ++ combine f stack := by
  obtain ⟨rest, lower, upper, rfl⟩ := exists_eq_push_push h
  simp only [Array.append_push, combine_push_push]

/-- An instruction that finds its operands leaves alone what lies underneath them. -/
theorem onStack_append (base : Array UInt64) (h : i.operands ≤ stack.size) :
    i.onStack (base ++ stack) = base ++ i.onStack stack := by
  cases i with
  | nop | jump _ | halt | error => rfl
  | push v => exact Array.push_append
  | pop | jumpIf _ | log =>
    obtain ⟨rest, top, rfl⟩ := Array.eq_push_of_size_ne_zero (Nat.ne_of_gt h)
    simp only [onStack, Array.append_push, Array.pop_push]
  | dup =>
    obtain ⟨rest, top, rfl⟩ := Array.eq_push_of_size_ne_zero (Nat.ne_of_gt h)
    simp only [onStack, Array.append_push, Array.back?_push]
  | swap =>
    obtain ⟨rest, lower, upper, rfl⟩ := exists_eq_push_push h
    simp only [Array.append_push, onStack_swap_push_push]
  | add | sub | mul => exact combine_append _ base h

/-- The top of a stack is only looked at by instructions that ask for a value. -/
theorem nextPc_append (base : Array UInt64) (h : i.operands ≤ stack.size) (pc : UInt64) :
    i.nextPc pc (base ++ stack).back? = i.nextPc pc stack.back? := by
  cases i with
  | jumpIf target =>
    obtain ⟨rest, top, rfl⟩ := Array.eq_push_of_size_ne_zero (Nat.ne_of_gt h)
    simp only [Array.append_push, Array.back?_push]
  | _ => rfl

@[inherit_doc nextPc_append]
theorem logged?_append (base : Array UInt64) (h : i.operands ≤ stack.size) :
    i.logged? (base ++ stack).back? = i.logged? stack.back? := by
  cases i with
  | log =>
    obtain ⟨rest, top, rfl⟩ := Array.eq_push_of_size_ne_zero (Nat.ne_of_gt h)
    simp only [Array.append_push, Array.back?_push]
  | _ => rfl

end Instruction

namespace Core

variable {base : Array UInt64} {c : Core}

/-- The same core with more values at the bottom of its stack. -/
def onTopOf (c : Core) (base : Array UInt64) : Core := { c with stack := base ++ c.stack }

/-- The next instruction asks for more values than the stack holds. -/
def Underflows (c : Core) : Prop :=
  ∃ i ∈ c.code[c.pc.toNat]?, c.stack.size < i.operands

instance (c : Core) : Decidable c.Underflows := inferInstanceAs (Decidable (∃ i ∈ _, _ < _))

def depthNeeded (c : Core) : Nat :=
  match c.code[c.pc.toNat]? with
  | some i => i.depthNeeded c.stack.size
  | none => c.stack.size

/-- A step with values underneath does what it does without them. -/
theorem step_onTopOf (hunder : ¬ c.Underflows) (hroom : base.size + c.depthNeeded ≤ maxDepth) :
    (c.onTopOf base).step = (c.step.1.onTopOf base, c.step.2) := by
  cases hi : c.code[c.pc.toNat]? with
  | none =>
    simp only [step, onTopOf, hi]
  | some i =>
    have hoperands : i.operands ≤ c.stack.size := by
      apply Nat.le_of_not_lt
      intro hfew
      exact hunder ⟨i, hi, hfew⟩
    have hneeded : base.size + i.depthNeeded c.stack.size ≤ maxDepth := by
      simpa only [depthNeeded, hi] using hroom
    by_cases hhalt : i = .halt
    · simp only [step, onTopOf, hi, if_pos hhalt]
    · -- Both cores are blocked or neither is, so the steps take the same branch.
      have hsame : i.isBlocked (base ++ c.stack).size = i.isBlocked c.stack.size := by
        rw [Array.size_append]
        exact Instruction.isBlocked_add hoperands hneeded
      by_cases hblocked : i.isBlocked c.stack.size = true
      · simp only [step, onTopOf, hi, if_neg hhalt, hsame, if_pos hblocked]
      · simp only [step, onTopOf, hi, if_neg hhalt, hsame, if_neg hblocked,
          Instruction.onStack_append base hoperands, Instruction.nextPc_append base hoperands,
          Instruction.logged?_append base hoperands]

/-- The loop with values underneath goes through the same steps, and ends with the same tally. -/
theorem advance_onTopOf {n : Nat} (hunder : ∀ d ∈ c.visited n, ¬ d.Underflows)
    (hroom : ∀ d ∈ c.visited n, base.size + d.depthNeeded ≤ maxDepth) (t : Tally) :
    advance n (c.onTopOf base) t = ((advance n c t).1.onTopOf base, (advance n c t).2) := by
  induction n, c using loop_induction generalizing t with
  | zero c => rfl
  | stopped n c hc =>
    have habove : (c.onTopOf base).status ≠ .extensive := hc
    rw [advance_of_stopped hc, advance_of_stopped habove]
  | pastEnd n c d hc hstep =>
    rw [visited_succ_of_none hc hstep, List.forall_mem_singleton] at hunder hroom
    have habove : (c.onTopOf base).status = .extensive := hc
    -- Past the end there is no instruction, so nothing asks for room.
    have hsame := step_onTopOf hunder hroom
    rw [hstep] at hsame
    rw [advance_succ_of_none hc hstep, advance_succ_of_none habove hsame]
  | step n c d e hc hstep ih =>
    rw [visited_succ_of_some hc hstep, List.forall_mem_cons] at hunder hroom
    have habove : (c.onTopOf base).status = .extensive := hc
    -- The conditions on the first core are those of its step; the others go to the rest of the run.
    have hsame := step_onTopOf hunder.1 hroom.1
    rw [hstep] at hsame
    rw [advance_succ_of_some hc hstep, advance_succ_of_some habove hsame]
    exact ih hunder.2 hroom.2 (t.add e)

/-- **Execution never looks below its operands.** If a run never finds too few values, and the
values underneath leave room for every depth that it needs, then the run with them takes the same
steps for the same gas, logs the same, stops at the same place with the same status, and leaves them
as they were, underneath what the run without them leaves. -/
theorem run_onTopOf (c : Core) (base : Array UInt64) (budget : UInt64)
    (hunder : ∀ d ∈ c.visited budget.toNat, ¬ d.Underflows)
    (hroom : ∀ d ∈ c.visited budget.toNat, base.size + d.depthNeeded ≤ maxDepth) :
    let alone := c.run budget
    let above := (c.onTopOf base).run budget
    above.2.numSteps = alone.2.numSteps ∧ above.2.numGas = alone.2.numGas ∧
      above.2.logs = alone.2.logs ∧ above.1.pc = alone.1.pc ∧
      above.1.status = alone.1.status ∧ above.1.stack = base ++ alone.1.stack := by
  intro alone above
  have hsame := advance_onTopOf hunder hroom .zero
  have hcore : above.1 = alone.1.onTopOf base := congrArg Prod.fst hsame
  have htally : (advance budget.toNat (c.onTopOf base) .zero).2 =
      (advance budget.toNat c .zero).2 := by
    rw [hsame]
  refine ⟨congrArg Tally.steps htally, congrArg Tally.gas htally, congrArg Tally.logs htally, ?_⟩
  rw [hcore]
  exact ⟨rfl, rfl, rfl⟩

/-- The loop that counts down needs two places, and there are just two left. -/
theorem run_onTopOf_countdown :
    let base : Array UInt64 := Array.replicate 65534 7
    let budget : UInt64 := 1004
    (∀ d ∈ countdown.visited budget.toNat, ¬ d.Underflows) ∧
      (∀ d ∈ countdown.visited budget.toNat, base.size + d.depthNeeded ≤ maxDepth) ∧
      ((countdown.onTopOf base).run budget).2.numSteps = (countdown.run budget).2.numSteps ∧
      ((countdown.onTopOf base).run budget).1.stack = base ++ (countdown.run budget).1.stack := by
  intro base budget
  have hunder : ∀ d ∈ countdown.visited budget.toNat, ¬ d.Underflows := by decide +kernel
  have htwo : ∀ d ∈ countdown.visited budget.toNat, d.depthNeeded ≤ 2 := by decide +kernel
  have hroom : ∀ d ∈ countdown.visited budget.toNat, base.size + d.depthNeeded ≤ maxDepth := by
    intro d hd
    have hneeded := htwo d hd
    have hsize : base.size = 65534 := Array.size_replicate
    show base.size + d.depthNeeded ≤ 65536
    omega
  obtain ⟨hsteps, -, -, -, -, hstack⟩ := run_onTopOf countdown base budget hunder hroom
  exact ⟨hunder, hroom, hsteps, hstack⟩

end Core

end StackMachine
