import StackMachine.Proofs.Core.Reachable

/-!
# What a run costs

An instruction costs one unit of gas, and a multiplication three. Still a run costs no more than two
units for each of its steps and what the stack has lost in depth: a multiplication takes a value
away that an earlier instruction has put there, or that has been there from the start. Each
instruction pays its part of this on its own (`Core.step_amortised`), and the parts add up along a
run (`Core.cost_add_size_le`). Only a multiplication that finds too few values takes none away and
costs one unit more, and a run ends with it.

So the words in which a run counts its steps and its gas are the true numbers
(`Core.gas_amortised`).
-/

namespace StackMachine

namespace Instruction

theorem gas_of_ne_mul {i : Instruction} (h : i ≠ .mul) : i.gas = 1 := by
  cases i with
  | mul => exact absurd rfl h
  | _ => rfl

theorem one_le_gas (i : Instruction) : 1 ≤ i.gas.toNat := by
  by_cases h : i = .mul
  · rw [h]
    decide
  · rw [gas_of_ne_mul h]
    decide

/-- An instruction that is executed pays for two units with what it takes off the stack. -/
theorem gas_add_size_onStack_le {i : Instruction} {stack : Array UInt64}
    (hi : i.isBlocked stack.size = false) :
    i.gas.toNat + (i.onStack stack).size ≤ 2 + stack.size := by
  cases i with
  | push v =>
    show 1 + (stack.push v).size ≤ 2 + stack.size
    rw [Array.size_push]
    omega
  | dup =>
    show 1 + (stack.push _).size ≤ 2 + stack.size
    rw [Array.size_push]
    omega
  | pop | jumpIf _ | log =>
    show 1 + stack.pop.size ≤ 2 + stack.size
    rw [Array.size_pop]
    omega
  | swap =>
    show 1 + (stack.swapIfInBounds _ _).size ≤ 2 + stack.size
    rw [Array.size_swapIfInBounds]
    omega
  | add | sub =>
    have htwo : 2 ≤ stack.size := Nat.not_lt.mp (of_decide_eq_false hi)
    show 1 + (combine _ stack).size ≤ 2 + stack.size
    rw [size_combine _ htwo]
    omega
  | mul =>
    -- One value less on the stack makes up for the third unit.
    have htwo : 2 ≤ stack.size := Nat.not_lt.mp (of_decide_eq_false hi)
    show 3 + (combine _ stack).size ≤ 2 + stack.size
    rw [size_combine _ htwo]
    omega
  -- These leave the stack as it is, and one of the two units is left over.
  | nop | jump _ | halt | error =>
    show 1 + stack.size ≤ 2 + stack.size
    omega

end Instruction

namespace Core

variable {c d : Core} {e : Effect} {n : Nat}

/-! ### What a run executes -/

/-- The instructions that a run of at most `n` of them executes, in order. Behind the end of the
code there is none. -/
def executed (n : Nat) (c : Core) : List Instruction :=
  (c.visited n).filterMap fun d => d.code[d.pc.toNat]?

/-- What these instructions cost together, as a number without bound. -/
def cost (n : Nat) (c : Core) : Nat := ((c.executed n).map fun i => i.gas.toNat).sum

/-- The last step of a run is a multiplication that finds fewer than two values. -/
def EndsInFaultingMul (n : Nat) (c : Core) : Prop :=
  ∃ last ∈ (c.visited n).getLast?, last.code[last.pc.toNat]? = some .mul ∧ last.stack.size < 2

theorem executed_of_stopped (hc : c.status ≠ .extensive) (n : Nat) : c.executed n = [] := by
  rw [executed, visited_of_stopped hc, List.filterMap_nil]

theorem executed_succ_of_some {i : Instruction} (hc : c.status = .extensive)
    (h : c.step = (d, some e)) (hi : c.code[c.pc.toNat]? = some i) (n : Nat) :
    c.executed (n + 1) = i :: d.executed n := by
  simp only [executed, visited_succ_of_some hc h, List.filterMap_cons, hi]

/-- A step past the end executes nothing, although the run visits the core. -/
theorem executed_succ_of_none (hc : c.status = .extensive) (h : c.step = (d, none)) (n : Nat) :
    c.executed (n + 1) = [] := by
  have hend : c.code.size ≤ c.pc.toNat := c.step_snd_eq_none_iff.mp (congrArg Prod.snd h)
  have hnone : c.code[c.pc.toNat]? = none := Array.getElem?_eq_none_iff.mpr hend
  simp only [executed, visited_succ_of_none hc h, List.filterMap_cons, hnone, List.filterMap_nil]

theorem cost_of_stopped (hc : c.status ≠ .extensive) (n : Nat) : c.cost n = 0 := by
  rw [cost, executed_of_stopped hc]
  rfl

theorem cost_succ_of_some {i : Instruction} (hc : c.status = .extensive)
    (h : c.step = (d, some e)) (hi : c.code[c.pc.toNat]? = some i) (n : Nat) :
    c.cost (n + 1) = i.gas.toNat + d.cost n := by
  rw [cost, executed_succ_of_some hc h hi, List.map_cons, List.sum_cons]
  rfl

theorem cost_succ_of_none (hc : c.status = .extensive) (h : c.step = (d, none)) (n : Nat) :
    c.cost (n + 1) = 0 := by
  rw [cost, executed_succ_of_none hc h]
  rfl

/-- A step that is counted executes the instruction at the program counter, for its gas. -/
theorem exists_instruction_of_step (h : c.step = (d, some e)) :
    ∃ i, c.code[c.pc.toNat]? = some i ∧ e.gas = i.gas := by
  have hstepped := c.stepped
  rw [h] at hstepped
  cases hstepped with
  | halted hi => exact ⟨_, hi, rfl⟩
  | blocked hi _ => exact ⟨_, hi, rfl⟩
  | executed hi _ _ => exact ⟨_, hi, rfl⟩

/-! ### Counting in words -/

/-- A run counts the instructions that it executes and adds up their gas, as words. -/
theorem tally_advance (n : Nat) (c : Core) (t : Tally) :
    (advance n c t).2.steps = t.steps + .ofNat (c.executed n).length ∧
      (advance n c t).2.gas = t.gas + .ofNat (c.cost n) := by
  -- The tally grows from step to step, so it is general; the words may wrap on either side.
  induction n, c using loop_induction generalizing t with
  | zero c => exact ⟨(UInt64.add_zero _).symm, (UInt64.add_zero _).symm⟩
  | stopped n c hc =>
    rw [advance_of_stopped hc, executed_of_stopped hc, cost_of_stopped hc]
    exact ⟨(UInt64.add_zero _).symm, (UInt64.add_zero _).symm⟩
  | pastEnd n c d hc h =>
    rw [advance_succ_of_none hc h, executed_succ_of_none hc h, cost_succ_of_none hc h]
    exact ⟨(UInt64.add_zero _).symm, (UInt64.add_zero _).symm⟩
  | step n c d e hc h ih =>
    obtain ⟨i, hi, hgas⟩ := exists_instruction_of_step h
    obtain ⟨hsteps, hcost⟩ := ih (t.add e)
    rw [advance_succ_of_some hc h, executed_succ_of_some hc h hi, cost_succ_of_some hc h hi]
    constructor
    · rw [hsteps, Tally.steps_add, List.length_cons, UInt64.ofNat_add, UInt64.add_assoc,
        UInt64.add_comm 1]
      rfl
    · rw [hcost, UInt64.ofNat_add, UInt64.ofNat_toNat, ← UInt64.add_assoc, ← hgas]
      rfl

/-- A run executes no more instructions than its budget. -/
theorem length_executed_le (n : Nat) (c : Core) : (c.executed n).length ≤ n := by
  induction n, c using loop_induction with
  | zero c => exact Nat.le_refl 0
  | stopped n c hc =>
    rw [executed_of_stopped hc]
    exact Nat.zero_le n
  | pastEnd n c d hc h =>
    rw [executed_succ_of_none hc h]
    exact Nat.zero_le _
  | step n c d e hc h ih =>
    obtain ⟨i, hi, -⟩ := exists_instruction_of_step h
    rw [executed_succ_of_some hc h hi]
    exact Nat.succ_le_succ ih

/-! ### The bound -/

/-- A step costs two units at most and what it takes off the stack, unless it is a multiplication
that is blocked. This one leaves the stack as it is and stops the core. -/
theorem step_amortised {i : Instruction} (h : c.step = (d, some e))
    (hi : c.code[c.pc.toNat]? = some i) :
    i.gas.toNat + d.stack.size ≤ 2 + c.stack.size ∨
      i = .mul ∧ c.stack.size < 2 ∧ d.status = .errorStop ∧ d.stack = c.stack := by
  have hstepped := c.stepped
  rw [h] at hstepped
  cases hstepped with
  | halted hhalt =>
    -- A halt costs one unit and takes nothing off the stack.
    obtain rfl := Option.some.inj (hi.symm.trans hhalt)
    left
    show 1 + c.stack.size ≤ 2 + c.stack.size
    omega
  | blocked hj hb =>
    obtain rfl := Option.some.inj (hi.symm.trans hj)
    by_cases hmul : i = .mul
    · subst hmul
      exact .inr ⟨rfl, of_decide_eq_true hb, rfl, rfl⟩
    · left
      rw [Instruction.gas_of_ne_mul hmul]
      show 1 + c.stack.size ≤ 2 + c.stack.size
      omega
  | executed hj _ hb =>
    obtain rfl := Option.some.inj (hi.symm.trans hj)
    exact .inl (Instruction.gas_add_size_onStack_le hb)

/-- What a run costs and the depth that it leaves are at most two for each step and the depth at the
start, or one more if it ends with a multiplication that is blocked. -/
theorem cost_add_size_le (n : Nat) (c : Core) (t : Tally) :
    c.cost n + (advance n c t).1.stack.size ≤ 2 * (c.executed n).length + c.stack.size ∨
      EndsInFaultingMul n c ∧
        c.cost n + (advance n c t).1.stack.size ≤ 2 * (c.executed n).length + c.stack.size + 1 := by
  induction n, c using loop_induction generalizing t with
  | zero c => exact .inl (Nat.le_refl _)
  | stopped n c hc =>
    rw [advance_of_stopped hc, executed_of_stopped hc, cost_of_stopped hc]
    exact .inl (Nat.le_refl _)
  | pastEnd n c d hc h =>
    have hstack : d.stack = c.stack := by
      have hstepped := c.stepped
      rw [h] at hstepped
      cases hstepped with
      | pastEnd _ => rfl
    rw [advance_succ_of_none hc h, executed_succ_of_none hc h, cost_succ_of_none hc h, hstack]
    exact .inl (Nat.le_refl _)
  | step n c d e hc h ih =>
    obtain ⟨i, hi, -⟩ := exists_instruction_of_step h
    rw [advance_succ_of_some hc h, executed_succ_of_some hc h hi, cost_succ_of_some hc h hi,
      List.length_cons]
    rcases step_amortised h hi with hpaid | ⟨rfl, htwo, hd, hstack⟩
    · -- The step has paid for itself, so the rest of the run decides which bound holds.
      rcases ih (t.add e) with hrest | ⟨⟨last, hlast, hfault⟩, hrest⟩
      · left
        omega
      · right
        -- The rest is not empty, so its last core is the last one of the whole run.
        refine ⟨⟨last, ?_, hfault⟩, by omega⟩
        rw [visited_succ_of_some hc h, List.getLast?_cons, Option.mem_def.mp hlast]
        rfl
    · -- The multiplication has stopped the core, so it is the last step of all.
      have hstopped : d.status ≠ .extensive := by
        rw [hd]
        exact nofun
      right
      rw [advance_of_stopped hstopped, executed_of_stopped hstopped, cost_of_stopped hstopped,
        hstack]
      refine ⟨⟨c, ?_, hi, htwo⟩, ?_⟩
      · rw [visited_succ_of_some hc h, visited_of_stopped hstopped]
        rfl
      · show 3 + 0 + c.stack.size ≤ 2 * (0 + 1) + c.stack.size + 1
        omega

/-- Every instruction costs at least one unit. -/
theorem length_executed_le_cost (n : Nat) (c : Core) : (c.executed n).length ≤ c.cost n := by
  have h : ∀ is : List Instruction, is.length ≤ (is.map fun i => i.gas.toNat).sum := by
    intro is
    induction is with
    | nil => exact Nat.le_refl 0
    | cons i is ih =>
      have := i.one_le_gas
      rw [List.length_cons, List.map_cons, List.sum_cons]
      omega
  exact h _

/-! ### Runs -/

/-- The steps that a run reports are the instructions that it executes: these are fewer than 2^64.
-/
theorem toNat_numSteps_run (n : UInt64) (c : Core) :
    (c.run n).2.numSteps.toNat = (c.executed n.toNat).length := by
  have hsteps : (c.run n).2.numSteps = 0 + .ofNat (c.executed n.toNat).length :=
    (tally_advance n.toNat c .zero).1
  rw [hsteps, UInt64.zero_add]
  exact UInt64.toNat_ofNat_of_lt' ((length_executed_le _ _).trans_lt n.toNat_lt)

/-- The gas that a run reports is the cost, if this is a word. -/
theorem toNat_numGas_run {n : UInt64} {c : Core} (h : c.cost n.toNat < 2 ^ 64) :
    (c.run n).2.numGas.toNat = c.cost n.toNat := by
  have hgas : (c.run n).2.numGas = 0 + .ofNat (c.cost n.toNat) :=
    (tally_advance n.toNat c .zero).2
  rw [hgas, UInt64.zero_add]
  exact UInt64.toNat_ofNat_of_lt' h

/-- An instruction that a run executes stands inside the code. -/
theorem pc_lt_of_visited {n : Nat} (hd : d ∈ c.visited n) {i : Instruction}
    (hi : d.code[d.pc.toNat]? = some i) : d.pc.toNat < c.code.size := by
  have hcode : d.code = c.code := by
    refine (visited_keeps (P := fun d => d.code = c.code) ?_ rfl d hd).1
    intro next _ hnext
    exact (code_step next).1.trans hnext
  rw [← hcode]
  exact (Array.getElem?_eq_some_iff.mp hi).1

/-- **Gas is bounded by steps, amortised over the stack.** Of any core, with any budget: the number
of steps is that of the executed instructions and no more than the budget. They cost at least one
unit each, and together with the depth at the end at most two each and the depth at the start, or
one more if the last of them is a multiplication that is blocked. So the sum of the gas is the true
one at every point of a run, as long as twice the budget and the depth leave room in a word, and in
particular if a fresh core runs with a budget below 2^63. The next position of an instruction that
is executed is a word whenever the length of the code is one. -/
theorem gas_amortised (c : Core) (budget : UInt64) :
    ((c.run budget).2.numSteps.toNat = (c.executed budget.toNat).length ∧
      (c.run budget).2.numSteps.toNat ≤ budget.toNat) ∧
    (c.run budget).2.numSteps.toNat ≤ c.cost budget.toNat ∧
    c.cost budget.toNat + (c.run budget).1.stack.size ≤
      2 * (c.run budget).2.numSteps.toNat + c.stack.size + 1 ∧
    (¬ EndsInFaultingMul budget.toNat c →
      c.cost budget.toNat + (c.run budget).1.stack.size ≤
        2 * (c.run budget).2.numSteps.toNat + c.stack.size) ∧
    (2 * budget.toNat + c.stack.size + 1 < 2 ^ 64 →
      ∀ n ≤ budget, (c.run n).2.numGas.toNat = c.cost n.toNat) ∧
    (∀ image, c = ofImage image → budget.toNat ≤ 2 ^ 63 - 1 →
      ∀ n ≤ budget, (c.run n).2.numGas.toNat = c.cost n.toNat) ∧
    ∀ d ∈ c.visited budget.toNat, ∀ i, d.code[d.pc.toNat]? = some i →
      d.pc.toNat + 1 ≤ c.code.size ∧
        (c.code.size < 2 ^ 64 → (d.pc + 1).toNat = d.pc.toNat + 1) := by
  have hbound (n : UInt64) :
      c.cost n.toNat + (c.run n).1.stack.size ≤
        2 * (c.executed n.toNat).length + c.stack.size ∨
      EndsInFaultingMul n.toNat c ∧ c.cost n.toNat + (c.run n).1.stack.size ≤
        2 * (c.executed n.toNat).length + c.stack.size + 1 :=
    cost_add_size_le n.toNat c .zero
  -- A smaller budget needs less room, so the sum is exact at every point of the run.
  have hexact (hroom : 2 * budget.toNat + c.stack.size + 1 < 2 ^ 64) (n : UInt64)
      (hn : n ≤ budget) : (c.run n).2.numGas.toNat = c.cost n.toNat := by
    apply toNat_numGas_run
    have hle : n.toNat ≤ budget.toNat := UInt64.le_iff_toNat_le.mp hn
    have hlength := length_executed_le n.toNat c
    rcases hbound n with h | ⟨-, h⟩
    · omega
    · omega
  rw [toNat_numSteps_run]
  refine ⟨⟨rfl, length_executed_le _ _⟩, length_executed_le_cost _ _, ?_, ?_, hexact, ?_, ?_⟩
  · rcases hbound budget with h | ⟨-, h⟩
    · omega
    · exact h
  · intro hfault
    rcases hbound budget with h | ⟨h, -⟩
    · exact h
    · exact absurd h hfault
  · rintro image rfl hbudget
    apply hexact
    have hempty : (ofImage image).stack.size = 0 := rfl
    rw [hempty]
    omega
  · intro d hd i hi
    have hlt := pc_lt_of_visited hd hi
    refine ⟨hlt, fun hcode => ?_⟩
    rw [UInt64.toNat_add, UInt64.toNat_one, Nat.mod_eq_of_lt (by omega)]

/-- The second of two multiplications finds a single value: this run costs as much as the bound
admits, so it is one that ends with a multiplication that is blocked. -/
theorem gas_amortised_mul_mul :
    let c := ofImage (.ofCode #[.push 2, .push 3, .mul, .mul])
    c.cost 10 = 8 ∧ (c.run 10).1.stack.size = 1 ∧ (c.run 10).2.numSteps.toNat = 4 ∧
      (c.run 10).2.numGas.toNat = 8 ∧ EndsInFaultingMul 10 c := by
  intro c
  have hcost : c.cost 10 = 8 := by decide +kernel
  have hdepth : (c.run 10).1.stack.size = 1 := by decide +kernel
  have hlength : (c.executed 10).length = 4 := by decide +kernel
  obtain ⟨⟨hsteps, -⟩, -, -, hpaid, -, hgas, -⟩ := gas_amortised c 10
  have hten : (10 : UInt64).toNat = 10 := rfl
  rw [hten] at hsteps hpaid hgas
  refine ⟨hcost, hdepth, hsteps.trans hlength, ?_, ?_⟩
  · rw [hgas _ rfl (by decide) 10 (by decide), hten, hcost]
  · by_contra hfault
    have := hpaid hfault
    rw [hcost, hdepth, hsteps, hlength] at this
    exact absurd this (by decide)

end Core

end StackMachine
