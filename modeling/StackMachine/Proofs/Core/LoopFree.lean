import StackMachine.Proofs.Core.Containment
import StackMachine.Proofs.Core.Gas
import StackMachine.Proofs.Core.Stopping

/-!
# Loop-free programs

If every jump leads to a later position, an instruction either stops the core or leaves it further
ahead in the code (`Core.pc_lt_step`). So a run executes no more instructions than there are between
the program counter and the end of the code (`Core.length_executed_le_of_jumpsForward`), and a
budget of one more than that is never used up: the core stops, and from then on the budget does not
matter.

A budget that is just the length of the code may be used up. The core is then right behind the end,
and only the next step, which is not counted, stops it.
-/

namespace StackMachine

/-- Every jump, taken or not, leads to a later position. -/
def Image.JumpsForward (code : Array Instruction) : Prop :=
  ∀ pc : Nat, ∀ target ∈ code[pc]?.bind Instruction.target?, pc < target.toNat

instance (code : Array Instruction) : Decidable (Image.JumpsForward code) :=
  decidable_of_iff
    (∀ pc < code.size, (code[pc]?.bind Instruction.target?).all (pc < ·.toNat) = true) <| by
    constructor
    · intro h pc target htarget
      obtain ⟨i, hi, -⟩ := Option.bind_eq_some_iff.mp htarget
      have hall := h pc (Array.getElem?_eq_some_iff.mp hi).1
      rw [Option.all_eq_true] at hall
      exact of_decide_eq_true (hall target htarget)
    · intro h pc _
      rw [Option.all_eq_true]
      exact fun target htarget => decide_eq_true (h pc target htarget)

namespace Core

variable {c d : Core} {e : Effect}

/-! ### Steps -/

/-- A step that is counted stops the core or moves it ahead. -/
theorem pc_lt_step (hsize : c.code.size < 2 ^ 64) (hforward : Image.JumpsForward c.code)
    (h : c.step = (d, some e)) : d.status ≠ .extensive ∨ c.pc.toNat < d.pc.toNat := by
  have hstepped := c.stepped
  rw [h] at hstepped
  cases hstepped with
  | halted _ => exact .inl nofun
  | blocked _ _ => exact .inl nofun
  | @executed i hi hhalt hblocked =>
    right
    show c.pc.toNat < (i.nextPc c.pc c.stack.back?).toNat
    rcases Instruction.nextPc_cases hhalt hblocked c.pc c.stack.back? with
      ⟨target, htarget, hnext⟩ | ⟨-, hnext⟩
    · rw [hnext]
      exact hforward c.pc.toNat target (Option.bind_eq_some_iff.mpr ⟨i, hi, htarget⟩)
    · -- The code ends at a word, so the next position is one as well.
      have hlt : c.pc.toNat < c.code.size := (Array.getElem?_eq_some_iff.mp hi).1
      rw [hnext, UInt64.toNat_add, UInt64.toNat_one, Nat.mod_eq_of_lt (by omega)]
      exact Nat.lt_succ_self _

/-- The code stays the same. -/
theorem code_of_step {o : Option Effect} (h : c.step = (d, o)) : d.code = c.code := by
  have hcode := (code_step c).1
  rwa [h] at hcode

/-! ### Runs -/

/-- A run executes at most the instructions from the program counter to the end of the code. -/
theorem length_executed_le_of_jumpsForward (hsize : c.code.size < 2 ^ 64)
    (hforward : Image.JumpsForward c.code) (n : Nat) :
    (c.executed n).length ≤ c.code.size - c.pc.toNat := by
  -- The distance to the end shrinks with every step that does not stop the core.
  induction n, c using loop_induction with
  | zero c => exact Nat.zero_le _
  | stopped n c hc =>
    rw [executed_of_stopped hc]
    exact Nat.zero_le _
  | pastEnd n c d hc h =>
    rw [executed_succ_of_none hc h]
    exact Nat.zero_le _
  | step n c d e hc h ih =>
    obtain ⟨i, hi, -⟩ := exists_instruction_of_step h
    have hlt : c.pc.toNat < c.code.size := (Array.getElem?_eq_some_iff.mp hi).1
    rw [executed_succ_of_some hc h hi, List.length_cons]
    rcases pc_lt_step hsize hforward h with hstopped | hahead
    · rw [executed_of_stopped hstopped, List.length_nil]
      omega
    · rw [code_of_step h] at ih
      have hrest := ih hsize hforward
      omega

/-- A run that could go on has moved ahead by all the instructions that it has executed. -/
theorem pc_add_length_executed_le (hsize : c.code.size < 2 ^ 64)
    (hforward : Image.JumpsForward c.code) {n : Nat} {t : Tally}
    (hgoing : (advance n c t).1.status = .extensive) :
    c.pc.toNat + (c.executed n).length ≤ (advance n c t).1.pc.toNat := by
  induction n, c using loop_induction generalizing t with
  | zero c => exact Nat.le_refl _
  | stopped n c hc =>
    rw [advance_of_stopped hc] at hgoing
    exact absurd hgoing hc
  | pastEnd n c d hc h =>
    rw [advance_succ_of_none hc h, status_of_step_eq_none h] at hgoing
    cases hgoing
  | step n c d e hc h ih =>
    obtain ⟨i, hi, -⟩ := exists_instruction_of_step h
    rw [advance_succ_of_some hc h] at hgoing ⊢
    rw [executed_succ_of_some hc h hi, List.length_cons]
    rcases pc_lt_step hsize hforward h with hstopped | hahead
    · rw [advance_of_stopped hstopped] at hgoing
      exact absurd hgoing hstopped
    · rw [code_of_step h] at ih
      have hrest := ih hsize hforward hgoing
      omega

/-! ### Programs -/

section Programs

variable {image : Image} {budget : UInt64}

/-- A budget that is larger than the program is not used up. -/
theorem run_of_jumpsForward (hforward : Image.JumpsForward image.code)
    (hbudget : image.code.size + 1 ≤ budget.toNat) :
    ((ofImage image).run budget).1.status ≠ .extensive ∧
      ((ofImage image).run budget).2.numSteps.toNat ≤ image.code.size := by
  have hsize : image.code.size < 2 ^ 64 := (Nat.lt_of_succ_le hbudget).trans budget.toNat_lt
  have hsteps : ((ofImage image).run budget).2.numSteps.toNat ≤ image.code.size := by
    rw [toNat_numSteps_run]
    exact length_executed_le_of_jumpsForward (c := ofImage image) hsize hforward budget.toNat
  -- If the core could still go on, all of the budget would have been used up.
  refine ⟨fun hgoing => ?_, hsteps⟩
  have hall := (steps_run budget (ofImage image)).2 hgoing
  omega

/-- If a budget of the length of the program is used up, the core is right behind the end. -/
theorem pc_run_of_jumpsForward {found : List Finding} (hvalid : image.validate = .ok found)
    (hforward : Image.JumpsForward image.code) (hbudget : budget.toNat = image.code.size)
    (hgoing : ((ofImage image).run budget).1.status = .extensive) :
    ((ofImage image).run budget).1.pc.toNat = image.code.size := by
  have hsize : image.code.size < 2 ^ 64 := hbudget ▸ budget.toNat_lt
  have hall := (steps_run budget (ofImage image)).2 hgoing
  rw [toNat_numSteps_run] at hall
  have hahead : 0 + ((ofImage image).executed budget.toNat).length ≤
      ((ofImage image).run budget).1.pc.toNat :=
    pc_add_length_executed_le (c := ofImage image) hsize hforward hgoing
  -- The check has made sure that it cannot be any further.
  have hinside := ((Reachable.fresh.run budget).contained hvalid).pc_le
  omega

/-- A core behind the end of its code stops there without a step. -/
theorem run_of_behindEnd (hc : Reachable image c) (hgoing : c.status = .extensive)
    (hend : c.code.size ≤ c.pc.toNat) (hbudget : budget ≠ 0) :
    (c.run budget).1.status = .errorStop ∧ (c.run budget).2.numSteps = 0 := by
  obtain ⟨n, hn⟩ : ∃ n, budget.toNat = n + 1 :=
    Nat.exists_eq_succ_of_ne_zero fun h => hbudget (UInt64.toNat_inj.mp h)
  rw [run_eq_runFor, hn, (StopsWith.pastEnd hend).runFor hc.size_stack_le hgoing]
  exact ⟨rfl, if_neg (Nat.not_lt.mpr hend)⟩

end Programs

/-! ### Programs that use their length up -/

/-- A program of a given length that does nothing. -/
def idle (length : Nat) : Image := .ofCode (Array.replicate length .nop)

/-- It can go on for as many steps as it is long. -/
theorem advance_idle {length : Nat} (hlength : length < UInt64.size) {n : Nat} (hn : n ≤ length)
    (t : Tally) :
    (advance n (ofImage (idle length)) t).1 = { ofImage (idle length) with pc := .ofNat n } := by
  induction n with
  | zero => rfl
  | succ n ih =>
    -- The last of the steps is taken from the core that the others lead to.
    rw [advance_add, ih (Nat.le_of_succ_le hn)]
    have hpc : (UInt64.ofNat n).toNat = n := UInt64.toNat_ofNat_of_lt' (by omega)
    have hnop : (Array.replicate length Instruction.nop)[n]? = some .nop := by
      rw [Array.getElem?_replicate, if_pos (Nat.lt_of_succ_le hn)]
    have hstep : ({ ofImage (idle length) with pc := .ofNat n } : Core).step =
        ({ ofImage (idle length) with pc := .ofNat n + 1 }, some ⟨1, none⟩) := by
      simp only [step, ofImage, idle, Image.ofCode, hpc, hnop]
      rfl
    rw [UInt64.ofNat_add]
    exact congrArg Prod.fst (advance_succ_of_some rfl hstep 0 _)

/-- There is nothing in it that jumps or stops. -/
theorem eq_nop_of_mem_idle {length : Nat} {i : Instruction} (hi : i ∈ (idle length).code) :
    i = .nop :=
  (Array.mem_replicate.mp hi).2

/-- It is valid, and its jumps all lead ahead, since there are none. -/
theorem idle_valid {length : Nat} (h : length ≠ 0) :
    (idle length).validate = .ok (Image.findings (idle length).code) ∧
      Image.JumpsForward (idle length).code := by
  constructor
  · refine Image.validate_eq_ok_iff.mpr ⟨?_, ?_, rfl⟩
    · intro hempty
      exact h (Array.replicate_eq_empty_iff.mp hempty)
    · intro i hi target htarget
      rw [eq_nop_of_mem_idle (Array.mem_toList_iff.mp hi)] at htarget
      cases htarget
  · intro pc target htarget
    obtain ⟨i, hi, htarget⟩ := Option.bind_eq_some_iff.mp htarget
    rw [eq_nop_of_mem_idle (Array.mem_of_getElem? hi)] at htarget
    cases htarget

/-! ### The bound -/

/-- **Loop-free programs stop within their length.** If a program is valid and all its jumps lead to
later positions, a run of it with a budget of at least one more than its length stops it after no
more steps than it has instructions, and no such budget makes a difference. With a budget of just
the length it may be able to go on, and for every length there is a program that is. It is then
right behind the end of its code, and any further run stops it there without a step. -/
theorem stops_within_length :
    (∀ (image : Image) (found : List Finding), image.validate = .ok found →
      Image.JumpsForward image.code →
      (∀ budget : UInt64, image.code.size + 1 ≤ budget.toNat →
        (((ofImage image).run budget).1.status = .halted ∨
          ((ofImage image).run budget).1.status = .errorStop) ∧
        ((ofImage image).run budget).2.numSteps.toNat ≤ image.code.size ∧
        ∀ other : UInt64, image.code.size + 1 ≤ other.toNat →
          (ofImage image).run other = (ofImage image).run budget) ∧
      ∀ budget : UInt64, budget.toNat = image.code.size →
        ((ofImage image).run budget).1.status = .extensive →
          ((ofImage image).run budget).1.pc = budget ∧
          ∀ further : UInt64, further ≠ 0 →
            (((ofImage image).run budget).1.run further).1.status = .errorStop ∧
            (((ofImage image).run budget).1.run further).2.numSteps = 0) ∧
    ∀ length : UInt64, length ≠ 0 → ∃ (image : Image) (found : List Finding),
      image.validate = .ok found ∧ Image.JumpsForward image.code ∧
        image.code.size = length.toNat ∧ ((ofImage image).run length).1.status = .extensive := by
  constructor
  · intro image found hvalid hforward
    constructor
    · intro budget hbudget
      obtain ⟨hstopped, hsteps⟩ := run_of_jumpsForward hforward hbudget
      refine ⟨?_, hsteps, fun other hother => ?_⟩
      · cases hstatus : ((ofImage image).run budget).1.status with
        | extensive => exact absurd hstatus hstopped
        | halted => exact .inl rfl
        | errorStop => exact .inr rfl
      · -- The smaller one of the two budgets is enough as well.
        rcases UInt64.le_total budget other with hle | hle
        · exact run_eq_of_stopped hstopped hle
        · exact (run_eq_of_stopped (run_of_jumpsForward hforward hother).1 hle).symm
    · intro budget hbudget hgoing
      have hpc := pc_run_of_jumpsForward hvalid hforward hbudget hgoing
      have hc : Reachable image ((ofImage image).run budget).1 := Reachable.fresh.run budget
      have hend : ((ofImage image).run budget).1.code.size ≤
          ((ofImage image).run budget).1.pc.toNat := by
        rw [hc.code.1, hpc]
      refine ⟨UInt64.toNat_inj.mp (hpc.trans hbudget.symm), fun further hfurther => ?_⟩
      exact run_of_behindEnd hc hgoing hend hfurther
  · intro length hlength
    obtain ⟨hvalid, hforward⟩ := idle_valid fun h => hlength (UInt64.toNat_inj.mp h)
    refine ⟨idle length.toNat, _, hvalid, hforward, Array.size_replicate, ?_⟩
    rw [show ((ofImage (idle length.toNat)).run length).1 = _ from
      advance_idle length.toNat_lt (Nat.le_refl _) _]
    rfl

/-- A program that is run through to its end: with a budget of its length, with one more, and with
many more. -/
theorem stops_within_length_jump :
    let image := Image.ofCode #[.push 2, .log, .jump 3, .nop]
    image.validate = .ok (Image.findings image.code) ∧ Image.JumpsForward image.code ∧
      ((ofImage image).run 4).1.status = .extensive ∧ ((ofImage image).run 4).1.pc = 4 ∧
      (((ofImage image).run 4).1.run 1).1.status = .errorStop ∧
      ((ofImage image).run 5).2.numSteps.toNat ≤ 4 ∧
      (ofImage image).run 1000 = (ofImage image).run 5 := by
  intro image
  have hvalid : image.validate = .ok (Image.findings image.code) :=
    Image.validate_eq_ok_iff.mpr ⟨by decide, by decide, rfl⟩
  have hforward : Image.JumpsForward image.code := by decide
  have hgoing : ((ofImage image).run 4).1.status = .extensive := by decide +kernel
  obtain ⟨hstops, hused⟩ := stops_within_length.1 image _ hvalid hforward
  obtain ⟨-, hsteps, hsame⟩ := hstops 5 (by decide)
  obtain ⟨hpc, hfurther⟩ := hused 4 rfl hgoing
  exact ⟨hvalid, hforward, hgoing, hpc, (hfurther 1 (by decide)).1, hsteps,
    hsame 1000 (by decide)⟩

end Core

end StackMachine
