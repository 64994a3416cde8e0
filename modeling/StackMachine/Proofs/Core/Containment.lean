import StackMachine.Proofs.Core.Reachable
import StackMachine.Proofs.Core.Step
import StackMachine.Proofs.Image.Validation

/-!
# Checked programs stay inside their code

A check of a program looks at its jumps alone, and never at a stack. Still it is enough to keep the
program counter inside the code, or right behind it if control can pass on from the last instruction
(`Core.Contained`): a step goes to a target, which the check has looked at, or to the next position.
So a program whose last instruction does not let control pass on never runs past its end.
-/

namespace StackMachine

namespace Core

variable {code : Array Instruction} {image : Image} {c : Core}

/-- The core runs the code, its program counter is a position of the code or the one behind it, this
last one only if control can pass on from the last instruction, and its stack is not too deep. -/
structure Contained (code : Array Instruction) (c : Core) : Prop where
  code_eq : c.code = code
  pc_le : c.pc.toNat ≤ code.size
  passed : c.pc.toNat = code.size → ∃ last ∈ code.back?, last.fallsThrough = true
  depth_le : c.stack.size ≤ maxDepth

/-- What an executed instruction keeps. -/
theorem Contained.executed (hinside : Image.StaysInside code) (h : Contained code c)
    {i : Instruction} (hi : c.code[c.pc.toNat]? = some i) (hhalt : i ≠ .halt)
    (hblocked : i.isBlocked c.stack.size = false) :
    Contained code { c with pc := i.nextPc c.pc c.stack.back?, stack := i.onStack c.stack } := by
  rw [h.code_eq] at hi
  have hpc : c.pc.toNat < code.size := (Array.getElem?_eq_some_iff.mp hi).1
  have hdepth := Instruction.size_onStack_le hblocked h.depth_le
  rcases Instruction.nextPc_cases hhalt hblocked c.pc c.stack.back? with
    ⟨target, htarget, hnext⟩ | ⟨hpasses, hnext⟩
  · -- The check has looked at the target.
    have hlt : target.toNat < code.size :=
      hinside i (Array.mem_toList_iff.mpr (Array.mem_of_getElem? hi)) target htarget
    rw [hnext]
    exact ⟨h.code_eq, Nat.le_of_lt hlt, fun heq => absurd heq (Nat.ne_of_lt hlt), hdepth⟩
  · -- Should the next position be no word, control is at the start again.
    have hsucc : (c.pc + 1).toNat = c.pc.toNat + 1 ∨ (c.pc + 1).toNat = 0 := by
      have := c.pc.toNat_lt
      rw [UInt64.toNat_add, UInt64.toNat_one]
      omega
    rw [hnext]
    refine ⟨h.code_eq, ?_, ?_, hdepth⟩
    · show (c.pc + 1).toNat ≤ code.size
      omega
    -- Behind the code only after its last instruction, which has just let control pass.
    · intro heq
      have hlast : code.size - 1 = c.pc.toNat := by
        have : (c.pc + 1).toNat = code.size := heq
        omega
      exact ⟨i, by rw [Array.back?_eq_getElem?, hlast, hi]; rfl, hpasses⟩

/-- What a step keeps. -/
theorem Contained.step (hinside : Image.StaysInside code) (h : Contained code c) :
    Contained code c.step.1 := by
  have hstepped := c.stepped
  generalize c.step = r at hstepped ⊢
  cases hstepped with
  | pastEnd _ => exact ⟨h.code_eq, h.pc_le, h.passed, h.depth_le⟩
  | halted _ => exact ⟨h.code_eq, h.pc_le, h.passed, h.depth_le⟩
  | blocked _ _ => exact ⟨h.code_eq, h.pc_le, h.passed, h.depth_le⟩
  | executed hi hhalt hblocked => exact h.executed hinside hi hhalt hblocked

theorem contained_ofImage (hcode : image.code ≠ #[]) : Contained image.code (ofImage image) where
  code_eq := rfl
  pc_le := Nat.zero_le _
  passed := fun h => absurd (Array.size_eq_zero_iff.mp h.symm) hcode
  depth_le := Nat.zero_le _

/-- Every core that comes from a checked program is contained in its code. -/
theorem Reachable.contained {found : List Finding} (hc : Reachable image c)
    (hvalid : image.validate = .ok found) : Contained image.code c := by
  obtain ⟨hcode, hinside, -⟩ := Image.validate_eq_ok_iff.mp hvalid
  exact hc.keeps (contained_ofImage hcode) fun _ _ h => h.step hinside

/-- A contained core runs past the end only if control can pass on from the last instruction. -/
theorem Contained.step_snd_ne_none (h : Contained code c) {last : Instruction}
    (hlast : code.back? = some last) (hstops : last.fallsThrough = false) : c.step.2 ≠ none := by
  intro hnone
  have hend := (step_snd_eq_none_iff c).mp hnone
  rw [h.code_eq] at hend
  -- It is behind the code, so some last instruction lets control pass, and there is only one.
  obtain ⟨other, hother, hpasses⟩ := h.passed (Nat.le_antisymm h.pc_le hend)
  cases hlast.symm.trans hother
  rw [hstops] at hpasses
  cases hpasses

/-- The position after that of a contained core is a word, unless the code is longer than any word
can say. -/
theorem Contained.toNat_pc_add_one (h : Contained code c) (hsize : code.size + 1 < UInt64.size) :
    (c.pc + 1).toNat = c.pc.toNat + 1 := by
  have hle := h.pc_le
  rw [UInt64.toNat_add, UInt64.toNat_one]
  exact Nat.mod_eq_of_lt (show c.pc.toNat + 1 < UInt64.size by omega)

/-- **A checked program stays inside its code.** In every core that it comes to, the program counter
is at most the length of the code, and equal to it only if control can pass on from the last
instruction; the stack is not too deep. If control cannot pass on from there, no run takes a step
past the end. And no run computes a next position that is too large for a word, as long as there
are words for the positions of the code and the one behind it. -/
theorem stays_inside {found : List Finding} (hvalid : image.validate = .ok found)
    (hc : Reachable image c) :
    c.pc.toNat ≤ image.code.size ∧
    c.stack.size ≤ 65536 ∧
    (c.pc.toNat = image.code.size → ∃ last ∈ image.code.back?, last.fallsThrough = true) ∧
    ∀ budget : UInt64, ∀ d ∈ c.visited budget.toNat,
      (∀ last ∈ image.code.back?, last.fallsThrough = false → d.step.2 ≠ none) ∧
      (image.code.size + 1 < UInt64.size → (d.pc + 1).toNat = d.pc.toNat + 1) := by
  have hcontained := hc.contained hvalid
  refine ⟨hcontained.pc_le, hcontained.depth_le, hcontained.passed, ?_⟩
  intro budget d hd
  -- The cores inside a run come from the same program.
  have hinside := (hc.visited d hd).1.contained hvalid
  exact ⟨fun last hlast hstops => hinside.step_snd_ne_none hlast hstops, hinside.toNat_pc_add_one⟩

/-- A loop whose last instruction jumps back, after a run that ends in its middle. -/
theorem stays_inside_loop :
    let image := Image.ofCode #[.push 1, .pop, .jump 0]
    let c := ((ofImage image).run 5).1
    image.validate = .ok (Image.findings image.code) ∧ Reachable image c ∧ c.pc.toNat ≤ 3 ∧
      ∀ budget : UInt64, ∀ d ∈ c.visited budget.toNat,
        d.step.2 ≠ none ∧ (d.pc + 1).toNat = d.pc.toNat + 1 := by
  intro image c
  have hvalid : image.validate = .ok (Image.findings image.code) :=
    Image.validate_eq_ok_iff.mpr ⟨by decide, by decide, rfl⟩
  have hc : Reachable image c := Reachable.fresh.run 5
  obtain ⟨hpc, -, -, hruns⟩ := stays_inside hvalid hc
  refine ⟨hvalid, hc, hpc, fun budget d hd => ?_⟩
  obtain ⟨hend, hnext⟩ := hruns budget d hd
  exact ⟨hend (.jump 0) rfl rfl, hnext (by decide)⟩

end Core

end StackMachine
