import StackMachine.Proofs.Core.Reachable

/-!
# Why a core has stopped

A core stops for one of four reasons (`Core.StopsWith`): it is at a halt, it is behind the end of
its code, it is at an error, or its stack obstructs the instruction. All of them can be read off the
core as it is, and still off the core that has stopped, because the step that stops it changes
nothing but the status. So a stopped core shows why it has stopped, however many runs it took, and
an extensive core that gives a reason stops where it is (`Core.stopped_shows_why`).
-/

namespace StackMachine

namespace Instruction

/-! ### Stacks that obstruct an instruction -/

def operands : Instruction → Nat
  | pop | dup | jumpIf _ | log => 1
  | swap | add | sub | mul => 2
  | nop | push _ | jump _ | halt | error => 0

/-- Only a push and a duplication make the stack deeper. -/
def deepens : Instruction → Bool
  | dup | push _ => true
  | _ => false

/-- A stack of the given depth does not admit the instruction: it holds fewer values than the
instruction asks for, or it is full and the instruction would make it deeper. -/
def Obstructed (i : Instruction) (depth : Nat) : Prop :=
  depth < i.operands ∨ i.deepens = true ∧ depth = Core.maxDepth

/-- Apart from an error, an instruction is blocked exactly if the stack obstructs it. -/
theorem isBlocked_iff {i : Instruction} {depth : Nat} (hdepth : depth ≤ Core.maxDepth) :
    i.isBlocked depth = true ↔ i = .error ∨ i.Obstructed depth := by
  have hfull : Core.maxDepth ≤ depth ↔ depth = Core.maxDepth :=
    ⟨fun h => Nat.le_antisymm hdepth h, fun h => Nat.le_of_eq h.symm⟩
  cases i <;> simp [isBlocked, Obstructed, operands, deepens, hfull]

end Instruction

namespace Core

variable {image : Image} {c : Core} {s : Status}

/-! ### Reasons to stop -/

/-- A reason for a core to go no further than where it is, and the status it stops with. -/
inductive StopsWith (c : Core) : Status → Prop
  | halt (h : c.code[c.pc.toNat]? = some .halt) : c.StopsWith .halted
  | pastEnd (h : c.code.size ≤ c.pc.toNat) : c.StopsWith .errorStop
  | error (h : c.code[c.pc.toNat]? = some .error) : c.StopsWith .errorStop
  | obstructed {i : Instruction} (h : c.code[c.pc.toNat]? = some i)
    (hi : i.Obstructed c.stack.size) : c.StopsWith .errorStop

/-- Nothing stops with the status of a core that can go on. -/
theorem StopsWith.ne_extensive (h : c.StopsWith s) : s ≠ .extensive := by
  cases h <;> exact nofun

/-- The assertion of a step that stops a core: nothing is logged, and the instruction counts with
its gas, if there is one. -/
def stopping (c : Core) (s : Status) : Assertion where
  beforeHash := c.hash
  afterHash := { c with status := s }.hash
  numSteps := if c.pc.toNat < c.code.size then 1 else 0
  numGas := match c.code[c.pc.toNat]? with
    | some i => i.gas
    | none => 0
  logs := #[]

/-! ### The step that stops a core -/

/-- An instruction that is blocked is a reason: it is an error, or the stack obstructs it. -/
theorem StopsWith.of_isBlocked (hdepth : c.stack.size ≤ maxDepth) {i : Instruction}
    (h : c.code[c.pc.toNat]? = some i) (hi : i.isBlocked c.stack.size = true) :
    c.StopsWith .errorStop := by
  rcases (Instruction.isBlocked_iff hdepth).mp hi with rfl | hi
  · exact .error h
  · exact .obstructed h hi

/-- A core that has a reason to stop takes a step that changes its status and nothing else. -/
theorem StopsWith.step (h : c.StopsWith s) (hdepth : c.stack.size ≤ maxDepth) :
    c.step = ({ c with status := s }, c.code[c.pc.toNat]?.map fun i => ⟨i.gas, none⟩) := by
  -- An error and an obstructed instruction are blocked in the same way.
  have hblocked {i : Instruction} (hi : c.code[c.pc.toNat]? = some i) (hhalt : i ≠ .halt)
      (hb : i.isBlocked c.stack.size = true) :
      c.step = ({ c with status := .errorStop }, some ⟨i.gas, none⟩) := by
    simp only [Core.step, hi, if_neg hhalt, if_pos hb]
  cases h with
  | halt h =>
    rw [h]
    simp only [Core.step, h, if_pos]
    rfl
  | pastEnd h =>
    have hnone : c.code[c.pc.toNat]? = none := Array.getElem?_eq_none_iff.mpr h
    rw [hnone]
    simp only [Core.step, hnone]
    rfl
  | error h =>
    rw [h]
    exact hblocked h nofun rfl
  | @obstructed i h hi =>
    rw [h]
    apply hblocked h
    · rintro rfl
      -- A halt asks for no values and leaves the stack as it is.
      rcases hi with hi | ⟨hi, -⟩
      · exact absurd hi (Nat.not_lt_zero _)
      · cases hi
    · exact (Instruction.isBlocked_iff hdepth).mpr (.inr hi)

/-- A step stops a core only for a reason, and the stopped core still shows it. -/
theorem stopsWith_of_step (hdepth : c.stack.size ≤ maxDepth) (hc : c.status = .extensive)
    (h : c.step.1.status ≠ .extensive) :
    c.StopsWith c.step.1.status ∧ c.step.1.StopsWith c.step.1.status := by
  have hstepped := c.stepped
  generalize c.step = r at hstepped h ⊢
  cases hstepped with
  | pastEnd hnone =>
    have hend := Array.getElem?_eq_none_iff.mp hnone
    exact ⟨.pastEnd hend, .pastEnd hend⟩
  | halted hi => exact ⟨.halt hi, .halt hi⟩
  | blocked hi hb =>
    -- Only the status has changed, so the stopped core is blocked at the same place.
    refine ⟨.of_isBlocked hdepth hi hb, ?_⟩
    exact StopsWith.of_isBlocked (c := { c with status := .errorStop }) hdepth hi hb
  | executed _ _ _ => exact absurd hc h

/-! ### Cores that come from an image -/

/-- No step makes the stack too deep. -/
theorem size_stack_step_le (h : c.stack.size ≤ maxDepth) : c.step.1.stack.size ≤ maxDepth := by
  have hstepped := c.stepped
  generalize c.step = r at hstepped ⊢
  cases hstepped with
  | pastEnd _ => exact h
  | halted _ => exact h
  | blocked _ _ => exact h
  | executed _ _ hb => exact Instruction.size_onStack_le hb h

/-- No core that comes from an image has too deep a stack. -/
theorem Reachable.size_stack_le (hc : Reachable image c) : c.stack.size ≤ maxDepth :=
  hc.keeps (P := fun c => c.stack.size ≤ maxDepth) (Nat.zero_le _)
    fun _ _ h => size_stack_step_le h

/-- A stopped core shows why it has stopped. -/
theorem Reachable.stopsWith_status (hc : Reachable image c) (h : c.status ≠ .extensive) :
    c.StopsWith c.status := by
  -- The depth goes along, because a stack that is too deep would obstruct for no reason.
  have hkept : c.stack.size ≤ maxDepth ∧ (c.status ≠ .extensive → c.StopsWith c.status) := by
    refine hc.keeps
      (P := fun c => c.stack.size ≤ maxDepth ∧ (c.status ≠ .extensive → c.StopsWith c.status))
      ⟨Nat.zero_le _, fun h => absurd rfl h⟩ ?_
    rintro d hd ⟨hdepth, -⟩
    exact ⟨size_stack_step_le hdepth, fun h => (stopsWith_of_step hdepth hd h).2⟩
  exact hkept.2 h

/-! ### Runs -/

/-- A core that has a reason to stop does so at once, whatever the budget. -/
theorem StopsWith.runFor (h : c.StopsWith s) (hdepth : c.stack.size ≤ maxDepth)
    (hc : c.status = .extensive) (n : Nat) :
    c.runFor (n + 1) = ({ c with status := s }, c.stopping s) := by
  have hstep := h.step hdepth
  rw [Core.runFor]
  cases hi : c.code[c.pc.toNat]? with
  | none =>
    have hend := Array.getElem?_eq_none_iff.mp hi
    rw [hi] at hstep
    rw [advance_succ_of_none hc hstep]
    simp only [stopping, hi, if_neg (Nat.not_lt.mpr hend)]
    rfl
  | some i =>
    have hlt : c.pc.toNat < c.code.size := (Array.getElem?_eq_some_iff.mp hi).1
    have hstopped : ({ c with status := s } : Core).status ≠ .extensive := h.ne_extensive
    rw [hi] at hstep
    rw [advance_succ_of_some hc hstep, advance_of_stopped hstopped]
    simp only [stopping, hi, if_pos hlt]
    simp [Tally.add, Tally.zero]

/-- A run that stops has taken a last step from a core that was extensive, and none after it. -/
theorem exists_runFor_eq_succ {n : Nat} (hc : c.status = .extensive)
    (hn : (c.runFor n).1.status ≠ .extensive) :
    ∃ k < n, (c.runFor k).1.status = .extensive ∧ c.runFor n = c.runFor (k + 1) := by
  induction n with
  | zero => exact absurd hc hn
  | succ n ih =>
    -- The last step is the first one after which the core has stopped.
    by_cases hearlier : (c.runFor n).1.status = .extensive
    · exact ⟨n, Nat.lt_succ_self n, hearlier, rfl⟩
    · obtain ⟨k, hk, hstatus, heq⟩ := ih hearlier
      refine ⟨k, Nat.lt_succ_of_lt hk, hstatus, ?_⟩
      rw [← heq]
      exact runFor_add_of_stopped hearlier 1

/-- **A stopped core shows why it has stopped, and the step that stopped it has changed nothing but
its status.** Of a core that comes from an image, valid or not: if it has stopped, it still has a
reason to stop with the status that it has. If it is extensive, its next step stops it exactly if
there is a reason, and then all that a run of any budget does is this step, which counts as
`Core.stopping` says. And any run that stops it consists of a run that does not and of such a last
step. -/
theorem stopped_shows_why (hc : Reachable image c) :
    (c.status ≠ .extensive → c.StopsWith c.status) ∧
    (c.status = .extensive →
      (∀ s, s ≠ .extensive → ((c.run 1).1.status = s ↔ c.StopsWith s)) ∧
      (∀ s, c.StopsWith s → ∀ budget : UInt64, budget ≠ 0 →
        c.run budget = ({ c with status := s }, c.stopping s)) ∧
      ∀ budget : UInt64, (c.run budget).1.status ≠ .extensive →
        ∃ shorter < budget, ∃ d a s, c.run shorter = (d, a) ∧ d.status = .extensive ∧
          d.StopsWith s ∧
          c.run budget = ({ d with status := s }, a.followedBy (d.stopping s))) := by
  refine ⟨hc.stopsWith_status, fun hextensive => ⟨?_, ?_, ?_⟩⟩
  · intro s hs
    have hdepth := hc.size_stack_le
    constructor
    · rintro rfl
      rw [run_one_fst hextensive] at hs ⊢
      exact (stopsWith_of_step hdepth hextensive hs).1
    · intro h
      rw [run_eq_runFor, show (1 : UInt64).toNat = 0 + 1 from rfl, h.runFor hdepth hextensive]
  · intro s h budget hbudget
    obtain ⟨n, hn⟩ : ∃ n, budget.toNat = n + 1 :=
      Nat.exists_eq_succ_of_ne_zero fun h => hbudget (UInt64.toNat_inj.mp h)
    rw [run_eq_runFor, hn]
    exact h.runFor hc.size_stack_le hextensive n
  · intro budget hstopped
    rw [run_eq_runFor] at hstopped
    obtain ⟨k, hk, hstatus, heq⟩ := exists_runFor_eq_succ hextensive hstopped
    have hword : (UInt64.ofNat k).toNat = k :=
      UInt64.toNat_ofNat_of_lt' (hk.trans budget.toNat_lt)
    have hd : Reachable image (c.runFor k).1 := hword ▸ hc.run (UInt64.ofNat k)
    -- The last step is a run of its own, from the core that the shorter run leaves.
    generalize hshorter : c.runFor k = r at hd hstatus
    obtain ⟨d, a⟩ := r
    have hsplit := runFor_add k 1 c
    rw [← heq, hshorter] at hsplit
    have hlast : (d.runFor 1).1 = d.step.1 := run_one_fst hstatus
    rw [hsplit, hlast] at hstopped
    have hwhy := (stopsWith_of_step hd.size_stack_le hstatus hstopped).1
    refine ⟨UInt64.ofNat k, ?_, d, a, _, ?_, hstatus, hwhy, ?_⟩
    · rwa [UInt64.lt_iff_toNat_lt, hword]
    · rw [run_eq_runFor, hword, hshorter]
    · rw [run_eq_runFor, hsplit, hwhy.runFor hd.size_stack_le hstatus 0]

/-- A swap on a single value, in front of the run that comes to it and behind it. -/
theorem stopped_shows_why_swap :
    let image := Image.ofCode #[.push 1, .log, .push 2, .swap]
    let c := ((ofImage image).run 3).1
    let d := (c.run 9).1
    Reachable image c ∧ c.status = .extensive ∧ c.StopsWith .errorStop ∧
      c.run 9 = ({ c with status := .errorStop }, c.stopping .errorStop) ∧
      Reachable image d ∧ d.status ≠ .extensive ∧ d.StopsWith d.status := by
  intro image c d
  have hc : Reachable image c := Reachable.fresh.run 3
  have hextensive : c.status = .extensive := by decide +kernel
  have hwhy : c.StopsWith .errorStop := by
    apply StopsWith.obstructed (i := .swap)
    · decide +kernel
    · left
      decide +kernel
  have hrun : c.run 9 = ({ c with status := .errorStop }, c.stopping .errorStop) :=
    ((stopped_shows_why hc).2 hextensive).2.1 _ hwhy 9 (by decide)
  have hd : Reachable image d := hc.run 9
  have hstopped : d.status ≠ .extensive := by
    show (c.run 9).1.status ≠ .extensive
    rw [hrun]
    exact nofun
  exact ⟨hc, hextensive, hwhy, hrun, hd, hstopped, (stopped_shows_why hd).1 hstopped⟩

end Core

end StackMachine
