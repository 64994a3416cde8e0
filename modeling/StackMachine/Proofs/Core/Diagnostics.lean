import StackMachine.Proofs.Core.Reachable
import StackMachine.Proofs.Core.Step
import StackMachine.Proofs.Image.Findings
import StackMachine.Proofs.Image.Validation

/-!
# Findings hold of every run

A finding is made of the code alone, from neighbouring instructions and from targets. It is right
about all runs nevertheless: control gets to a position only by a jump or from the one before, so a
position that is cut off is never reached, and only a halt makes a core halt.
-/

namespace StackMachine.Core

variable {image : Image} {c : Core}

/-! ### Positions that are cut off -/

/-- A step does not lead to a position that is cut off. -/
theorem pc_step_ne {pc : Nat} (hpos : 1 ≤ pc) (hcut : Image.CutOff c.code pc)
    (hpc : c.pc.toNat ≠ pc) : c.step.1.pc.toNat ≠ pc := by
  obtain ⟨⟨before, hbefore, hstops⟩, htargets⟩ := hcut
  have hstepped := c.stepped
  generalize c.step = r at hstepped ⊢
  cases hstepped with
  | pastEnd _ => exact hpc
  | halted _ => exact hpc
  | blocked _ _ => exact hpc
  | @executed i hi hhalt hblocked =>
    show (i.nextPc c.pc c.stack.back?).toNat ≠ pc
    rcases Instruction.nextPc_cases hhalt hblocked c.pc c.stack.back? with
      ⟨target, htarget, hnext⟩ | ⟨hpasses, hnext⟩
    · rw [hnext]
      exact htargets i (Array.mem_toList_iff.mpr (Array.mem_of_getElem? hi)) target htarget
    · rw [hnext]
      intro heq
      -- A position after the first is not reached by counting past the last word.
      have hprev : pc - 1 = c.pc.toNat := by
        have := c.pc.toNat_lt
        rw [UInt64.toNat_add, UInt64.toNat_one] at heq
        omega
      rw [hprev] at hbefore
      cases hi.symm.trans hbefore
      rw [hstops] at hpasses
      cases hpasses

/-- So no core that comes from the image is at such a position. -/
theorem Reachable.pc_ne_of_cutOff (hc : Reachable image c) {pc : Nat} (hpos : 1 ≤ pc)
    (hcut : Image.CutOff image.code pc) : c.pc.toNat ≠ pc := by
  -- That the position is cut off is a fact about the code, so the code is kept along with it.
  have hkept : c.code = image.code ∧ c.pc.toNat ≠ pc := by
    refine hc.keeps (P := fun c => c.code = image.code ∧ c.pc.toNat ≠ pc) ⟨rfl, ?_⟩ ?_
    · exact (Nat.ne_of_gt hpos).symm
    · rintro d - ⟨hcode, hpc⟩
      exact ⟨(code_step d).1.trans hcode, pc_step_ne hpos (hcode ▸ hcut) hpc⟩
  exact hkept.2

/-! ### Programs without a halt -/

/-- Only a halt makes a core halt. -/
theorem status_step_ne_halted (hcode : .halt ∉ c.code) (hc : c.status ≠ .halted) :
    c.step.1.status ≠ .halted := by
  have hstepped := c.stepped
  generalize c.step = r at hstepped ⊢
  cases hstepped with
  | pastEnd _ => exact nofun
  | halted hi => exact absurd (Array.mem_of_getElem? hi) hcode
  | blocked _ _ => exact nofun
  | executed _ _ _ => exact hc

/-- So no core that comes from code without a halt has halted. -/
theorem Reachable.status_ne_halted (hc : Reachable image c) (hcode : .halt ∉ image.code) :
    c.status ≠ .halted := by
  have hkept : c.code = image.code ∧ c.status ≠ .halted := by
    refine hc.keeps (P := fun c => c.code = image.code ∧ c.status ≠ .halted) ⟨rfl, nofun⟩ ?_
    rintro d - ⟨hd, hstatus⟩
    exact ⟨(code_step d).1.trans hd, status_step_ne_halted (hd ▸ hcode) hstatus⟩
  exact hkept.2

/-! ### Findings -/

/-- **The findings of a check hold of every run.** If the check calls an instruction unreachable, no
core that the program comes to is at this instruction, in front of a run, behind it or on its way.
If it says that there is no halt, no such core has halted. -/
theorem findings_sound {found : List Finding} (hvalid : image.validate = .ok found)
    (hc : Reachable image c) :
    (∀ pc : Nat, "instruction " ++ toString pc ++ " is unreachable" ∈ found.map Finding.message →
      c.pc.toNat ≠ pc ∧ ∀ budget : UInt64, ∀ d ∈ c.visited budget.toNat, d.pc.toNat ≠ pc) ∧
    ("program has no halt instruction" ∈ found.map Finding.message → c.status ≠ .halted) := by
  -- What the check has found is a function of the code.
  obtain ⟨-, -, rfl⟩ := Image.validate_eq_ok_iff.mp hvalid
  constructor
  · intro pc hpc
    have hfinding : .unreachable pc ∈ Image.findings image.code :=
      Finding.message_mem_iff.mp hpc
    obtain ⟨hpos, -, hcut⟩ := Image.unreachable_mem_findings_iff.mp hfinding
    refine ⟨hc.pc_ne_of_cutOff hpos hcut, ?_⟩
    intro budget d hd
    exact (hc.visited d hd).1.pc_ne_of_cutOff hpos hcut
  · intro hmessage
    have hfinding : .noHalt ∈ Image.findings image.code := Finding.message_mem_iff.mp hmessage
    exact hc.status_ne_halted (Image.noHalt_mem_findings_iff.mp hfinding)

/-- A jump over an instruction, and a program that runs off its end. -/
theorem findings_sound_jump_over :
    let image := Image.ofCode #[.jump 2, .nop, .push 1, .pop]
    let found := Image.findings image.code
    let c := ((ofImage image).run 2).1
    image.validate = .ok found ∧ Reachable image c ∧
      "instruction 1 is unreachable" ∈ found.map Finding.message ∧
      "program has no halt instruction" ∈ found.map Finding.message ∧
      c.pc.toNat ≠ 1 ∧ c.status ≠ .halted ∧
      ∀ budget : UInt64, ∀ d ∈ c.visited budget.toNat, d.pc.toNat ≠ 1 := by
  intro image found c
  have hvalid : image.validate = .ok found :=
    Image.validate_eq_ok_iff.mpr ⟨by decide, by decide, rfl⟩
  have hc : Reachable image c := Reachable.fresh.run 2
  have htargets : ∀ i ∈ image.code.toList, ∀ target ∈ i.target?, target.toNat ≠ 1 := by
    simp [image, Image.ofCode, Instruction.target?]
  have hcut : Finding.unreachable 1 ∈ found :=
    Image.unreachable_mem_findings_iff.mpr
      ⟨by decide, by decide, ⟨.jump 2, rfl, rfl⟩, htargets⟩
  have hhalt : Finding.noHalt ∈ found := by
    rw [Image.noHalt_mem_findings_iff, ← Array.mem_toList_iff]
    decide
  have hcutText : "instruction 1 is unreachable" ∈ found.map Finding.message :=
    Finding.message_mem_iff.mpr hcut
  have hhaltText : "program has no halt instruction" ∈ found.map Finding.message :=
    Finding.message_mem_iff.mpr hhalt
  obtain ⟨hpc, hstatus⟩ := findings_sound hvalid hc
  obtain ⟨hhere, hruns⟩ := hpc 1 hcutText
  exact ⟨hvalid, hc, hcutText, hhaltText, hhere, hstatus hhaltText, hruns⟩

end StackMachine.Core
