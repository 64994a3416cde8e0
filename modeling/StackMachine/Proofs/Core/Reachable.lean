import StackMachine.Proofs.Core.Run

/-!
# Reachable cores

The cores that come from an image: the one that is made of it, and what runs with any budgets leave.
What a single instruction keeps is kept by a run (`Core.run_keeps`) and so by all of them
(`Core.Reachable.keeps`). In particular no run changes the code, or the digest that is kept of it
(`Core.Reachable.code`).

A run does not go through any other cores on its way: `Core.visited` lists those from which it takes
its steps, and what comes from an image visits only what comes from it (`Core.Reachable.visited`).
-/

namespace StackMachine.Core

variable {P : Core → Prop} {image : Image} {c : Core}

/-- The cores that come from an image. A copy of a core is the same core, so that copying adds
none. -/
inductive Reachable (image : Image) : Core → Prop
  | fresh : Reachable image (ofImage image)
  | run {c : Core} (h : Reachable image c) (budget : UInt64) : Reachable image (c.run budget).1

/-! ### What instructions keep -/

/-- What every instruction keeps is kept by the loop. -/
theorem advance_keeps (hstep : ∀ c : Core, c.status = .extensive → P c → P c.step.1) (h : P c)
    (n : Nat) (t : Tally) : P (advance n c t).1 := by
  induction n, c using loop_induction generalizing t with
  | zero c => exact h
  | stopped n c hc =>
    rw [advance_of_stopped hc]
    exact h
  | pastEnd n c d hc hd =>
    -- The last step changes the core as well, though it executes nothing.
    have hnext := hstep c hc h
    rw [hd] at hnext
    rw [advance_succ_of_none hc hd]
    exact hnext
  | step n c d e hc hd ih =>
    have hnext := hstep c hc h
    rw [hd] at hnext
    rw [advance_succ_of_some hc hd]
    exact ih hnext (t.add e)

/-- What every instruction keeps is kept by a run. -/
theorem run_keeps (hstep : ∀ c : Core, c.status = .extensive → P c → P c.step.1) (h : P c)
    (budget : UInt64) : P (c.run budget).1 :=
  advance_keeps hstep h budget.toNat .zero

/-- What holds at the start, and is kept by every instruction, holds of every core that comes from
an image. -/
theorem Reachable.keeps (hc : Reachable image c) (hstart : P (ofImage image))
    (hstep : ∀ c : Core, c.status = .extensive → P c → P c.step.1) : P c := by
  induction hc with
  | fresh => exact hstart
  | run _ budget ih => exact run_keeps hstep ih budget

/-! ### The code -/

/-- No instruction changes the code or its digest. -/
theorem code_step (c : Core) : c.step.1.code = c.code ∧ c.step.1.codeDigest = c.codeDigest := by
  have hstepped := c.stepped
  generalize c.step = r at hstepped ⊢
  cases hstepped with
  | pastEnd _ => exact ⟨rfl, rfl⟩
  | halted _ => exact ⟨rfl, rfl⟩
  | blocked _ _ => exact ⟨rfl, rfl⟩
  | executed _ _ _ => exact ⟨rfl, rfl⟩

/-- The code of a core is that of its image, and the digest that is kept is the one of this code. -/
theorem Reachable.code (hc : Reachable image c) :
    c.code = image.code ∧ c.codeDigest = Sha256.hash (codeBytes image.code.toList) := by
  -- Both are kept from the core that is made of the image, whose digest is computed there.
  refine hc.keeps (P := fun c => c.code = image.code ∧ c.codeDigest = _) ⟨rfl, rfl⟩ ?_
  rintro c - ⟨hcode, hdigest⟩
  obtain ⟨hnext, hnextDigest⟩ := code_step c
  exact ⟨hnext.trans hcode, hnextDigest.trans hdigest⟩

/-! ### The cores inside a run -/

/-- The cores from which a run of at most `n` instructions takes its steps, the first one first. -/
def visited : Nat → Core → List Core
  | 0, _ => []
  | n + 1, c =>
    if c.status = .extensive then
      c ::
        match c.step with
        | (d, some _) => visited n d
        | (_, none) => []
    else []

/-- A stopped core takes no step, so a run of it visits nothing. -/
theorem visited_of_stopped (hc : c.status ≠ .extensive) (n : Nat) : c.visited n = [] := by
  cases n with
  | zero => rfl
  | succ n => rw [visited, if_neg hc]

theorem visited_succ_of_some {d : Core} {e : Effect} (hc : c.status = .extensive)
    (h : c.step = (d, some e)) (n : Nat) : c.visited (n + 1) = c :: d.visited n := by
  rw [visited, if_pos hc, h]

theorem visited_succ_of_none {d : Core} (hc : c.status = .extensive) (h : c.step = (d, none))
    (n : Nat) : c.visited (n + 1) = [c] := by
  rw [visited, if_pos hc, h]

/-- A run ends where the step from the last core leads that it visits. -/
theorem advance_eq_visited (n : Nat) (c : Core) (t : Tally) :
    (advance n c t).1 = (c.visited n).foldl (fun _ d => d.step.1) c := by
  induction n, c using loop_induction generalizing t with
  | zero c => rfl
  | stopped n c hc =>
    rw [visited_of_stopped hc, advance_of_stopped hc]
    rfl
  | pastEnd n c d hc hd =>
    rw [visited_succ_of_none hc hd, advance_succ_of_none hc hd, List.foldl_cons, hd]
    rfl
  | step n c d e hc hd ih =>
    rw [visited_succ_of_some hc hd, advance_succ_of_some hc hd, List.foldl_cons, hd]
    exact ih (t.add e)

/-- What is kept by every instruction holds of all cores inside a run, and all are extensive. -/
theorem visited_keeps (hstep : ∀ c : Core, c.status = .extensive → P c → P c.step.1) (h : P c)
    {n : Nat} : ∀ d ∈ c.visited n, P d ∧ d.status = .extensive := by
  induction n, c using loop_induction with
  | zero c => exact nofun
  | stopped n c hc =>
    rw [visited_of_stopped hc]
    exact nofun
  | pastEnd n c d hc hd =>
    rw [visited_succ_of_none hc hd, List.forall_mem_singleton]
    exact ⟨h, hc⟩
  | step n c d e hc hd ih =>
    have hnext := hstep c hc h
    rw [hd] at hnext
    rw [visited_succ_of_some hc hd, List.forall_mem_cons]
    exact ⟨⟨h, hc⟩, ih hnext⟩

/-- A run with a budget of one leaves what a single step leaves. -/
theorem run_one_fst (hc : c.status = .extensive) : (c.run 1).1 = c.step.1 := by
  show (advance (0 + 1) c .zero).1 = c.step.1
  match hstep : c.step with
  | (d, some e) => rw [advance_succ_of_some hc hstep, advance]
  | (d, none) => rw [advance_succ_of_none hc hstep]

/-- What a single step leaves comes from the image, too: it is a run with a budget of one. -/
theorem Reachable.step (hc : Reachable image c) (hextensive : c.status = .extensive) :
    Reachable image c.step.1 := by
  rw [← run_one_fst hextensive]
  exact hc.run 1

/-- The cores inside a run come from the same image. -/
theorem Reachable.visited (hc : Reachable image c) {n : Nat} :
    ∀ d ∈ c.visited n, Reachable image d ∧ d.status = .extensive :=
  visited_keeps (fun _ hd h => h.step hd) hc

end StackMachine.Core
