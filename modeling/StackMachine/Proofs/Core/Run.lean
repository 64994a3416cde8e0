import Mathlib.Data.List.Chain
import Mathlib.Data.UInt
import StackMachine.Core.Run
import StackMachine.Proofs.Core.Step

/-!
# Runs in sequence

A run with a budget is the same as runs that share the budget out among them
(`Core.runAll_eq_runFor`), wherever the cuts fall: in front of a halt, a fault or the end of the
code, at it, or after it. The reason is that the loop of a run can be cut at any number of steps
(`Core.advance_add`): a loop that has ended early has left a core that is stopped, and a stopped
core is not advanced any more.

What a run has done is a `Tally`. Tallies are added up by `Tally.append`, and the loop only ever
appends to the one it is given (`Core.advance_append`).
-/

namespace StackMachine

namespace Tally

def append (t u : Tally) : Tally := ⟨t.steps + u.steps, t.gas + u.gas, t.logs ++ u.logs⟩

@[simp] theorem append_zero (t : Tally) : t.append zero = t := by
  simp [append, zero]

/-- Instructions are counted at the end, so what came before stays in front. -/
theorem append_add (t u : Tally) (e : Effect) : (t.append u).add e = t.append (u.add e) := by
  cases h : e.logged? <;> simp [append, add, h, add_assoc]

theorem steps_add (t : Tally) (e : Effect) : (t.add e).steps = t.steps + 1 := rfl

end Tally

namespace Core

/-! ### The loop -/

/-- Only the end of the code is no step, and it stops the core. -/
theorem status_of_step_eq_none {c d : Core} (h : c.step = (d, none)) : d.status = .errorStop := by
  have hstepped := c.stepped
  rw [h] at hstepped
  cases hstepped with
  | pastEnd _ => rfl

/-- A stopped core is not advanced, whatever the budget. -/
theorem advance_of_stopped {c : Core} (h : c.status ≠ .extensive) (n : Nat) (t : Tally) :
    advance n c t = (c, t) := by
  cases n with
  | zero => rfl
  | succ n => rw [advance, if_neg h]

theorem advance_succ_of_some {c d : Core} {e : Effect} (hc : c.status = .extensive)
    (h : c.step = (d, some e)) (n : Nat) (t : Tally) :
    advance (n + 1) c t = advance n d (t.add e) := by
  simp only [advance, if_pos hc, h]

theorem advance_succ_of_none {c d : Core} (hc : c.status = .extensive)
    (h : c.step = (d, none)) (n : Nat) (t : Tally) : advance (n + 1) c t = (d, t) := by
  simp only [advance, if_pos hc, h]

/-- Induction along the loop: it has no steps left, or the core is stopped, or it runs past the end,
or it executes an instruction and goes on. -/
@[elab_as_elim]
theorem loop_induction {motive : Nat → Core → Prop} (zero : ∀ c, motive 0 c)
    (stopped : ∀ n c, c.status ≠ .extensive → motive n c)
    (pastEnd : ∀ n c d, c.status = .extensive → c.step = (d, none) → motive (n + 1) c)
    (step : ∀ n c d e, c.status = .extensive → c.step = (d, some e) → motive n d →
      motive (n + 1) c) :
    ∀ n c, motive n c := by
  intro n
  induction n with
  | zero => exact zero
  | succ n ih =>
    intro c
    by_cases hc : c.status = .extensive
    · match hstep : c.step with
      | (d, some e) => exact step n c d e hc hstep (ih d)
      | (d, none) => exact pastEnd n c d hc hstep
    · exact stopped (n + 1) c hc

/-- The loop can be cut at any number of steps. -/
theorem advance_add (m n : Nat) (c : Core) (t : Tally) :
    advance (m + n) c t = advance n (advance m c t).1 (advance m c t).2 := by
  induction m, c using loop_induction generalizing t with
  | zero c =>
    rw [Nat.zero_add]
    rfl
  | stopped m c hc => rw [advance_of_stopped hc, advance_of_stopped hc, advance_of_stopped hc]
  | pastEnd m c d hc hstep =>
    -- The first stretch has run off the end; nothing is left for the second one to do.
    have hd : d.status ≠ .extensive := by
      rw [status_of_step_eq_none hstep]
      exact nofun
    rw [Nat.add_right_comm, advance_succ_of_none hc hstep, advance_succ_of_none hc hstep,
      advance_of_stopped hd]
  | step m c d e hc hstep ih =>
    rw [Nat.add_right_comm, advance_succ_of_some hc hstep, advance_succ_of_some hc hstep]
    exact ih (t.add e)

/-- The loop appends to the tally it is given and does not look at it. -/
theorem advance_append (n : Nat) (c : Core) (t u : Tally) :
    advance n c (t.append u) = ((advance n c u).1, t.append (advance n c u).2) := by
  induction n, c using loop_induction generalizing u with
  | zero c => rfl
  | stopped n c hc => rw [advance_of_stopped hc, advance_of_stopped hc]
  | pastEnd n c d hc hstep =>
    rw [advance_succ_of_none hc hstep, advance_succ_of_none hc hstep]
  | step n c d e hc hstep ih =>
    rw [advance_succ_of_some hc hstep, advance_succ_of_some hc hstep, Tally.append_add]
    exact ih (u.add e)

/-- Two stretches of the loop, each with a tally of its own. -/
theorem advance_add_zero (m n : Nat) (c : Core) :
    advance (m + n) c .zero =
      ((advance n (advance m c .zero).1 .zero).1,
        (advance m c .zero).2.append (advance n (advance m c .zero).1 .zero).2) := by
  rw [advance_add, ← advance_append, Tally.append_zero]

/-- The loop takes at most as many steps as it may, and exactly as many if it could go on. -/
theorem steps_advance {n : Nat} {c : Core} {t : Tally} (h : t.steps.toNat + n < 2 ^ 64) :
    (advance n c t).2.steps.toNat ≤ t.steps.toNat + n ∧
      ((advance n c t).1.status = .extensive →
        (advance n c t).2.steps.toNat = t.steps.toNat + n) := by
  -- The tally keeps its room for the steps still to come, so counting them never wraps.
  induction n, c using loop_induction generalizing t with
  | zero c => exact ⟨le_refl _, fun _ => rfl⟩
  | stopped n c hc =>
    rw [advance_of_stopped hc]
    exact ⟨Nat.le_add_right _ _, fun h => absurd h hc⟩
  | pastEnd n c d hc hstep =>
    rw [advance_succ_of_none hc hstep]
    refine ⟨Nat.le_add_right _ _, fun hd => ?_⟩
    rw [status_of_step_eq_none hstep] at hd
    cases hd
  | step n c d e hc hstep ih =>
    rw [advance_succ_of_some hc hstep]
    have hsteps : (t.add e).steps.toNat = t.steps.toNat + 1 := by
      rw [Tally.steps_add, UInt64.toNat_add, UInt64.toNat_one, Nat.mod_eq_of_lt (by omega)]
    have hrest := ih (t := t.add e) (by omega)
    rw [hsteps] at hrest
    rwa [Nat.add_right_comm, Nat.add_assoc] at hrest

end Core

/-! ### Assertions in sequence -/

namespace Assertion

/-- The assertion of a run and of the one that goes on from where it ended. -/
def followedBy (a b : Assertion) : Assertion where
  beforeHash := a.beforeHash
  afterHash := b.afterHash
  numSteps := a.numSteps + b.numSteps
  numGas := a.numGas + b.numGas
  logs := a.logs ++ b.logs

/-- Whether the assertions of runs in sequence amount to that of a single run: the numbers add up
modulo 2^64, the logs are strung together, the first hash is where the single run starts, the last
one where it ends, and each run starts from the state in which the one before it ended. -/
structure IsSplit (whole : Assertion) (parts : List Assertion) : Prop where
  numSteps : (parts.map Assertion.numSteps).sum = whole.numSteps
  numGas : (parts.map Assertion.numGas).sum = whole.numGas
  logs : parts.flatMap (·.logs.toList) = whole.logs.toList
  first : ∀ a ∈ parts.head?, a.beforeHash = whole.beforeHash
  last : ∀ a ∈ parts.getLast?, a.afterHash = whole.afterHash
  joined : parts.IsChain fun a b => a.afterHash = b.beforeHash
  nothing : parts = [] → whole.beforeHash = whole.afterHash

/-- One more part in front. -/
theorem IsSplit.cons {whole a : Assertion} {parts : List Assertion} (h : whole.IsSplit parts)
    (ha : a.afterHash = whole.beforeHash) : (a.followedBy whole).IsSplit (a :: parts) where
  numSteps := by rw [List.map_cons, List.sum_cons, h.numSteps]; rfl
  numGas := by rw [List.map_cons, List.sum_cons, h.numGas]; rfl
  logs := by rw [List.flatMap_cons, h.logs, followedBy, Array.toList_append]
  first := by simp [followedBy]
  last := by
    intro b hb
    -- The last hash is that of the new part only if there is no other.
    cases parts with
    | nil =>
      obtain rfl := Option.some.inj hb
      exact ha.trans (h.nothing rfl)
    | cons c parts => exact h.last b (by rwa [List.getLast?_cons_cons] at hb)
  joined := List.isChain_cons.mpr ⟨fun b hb => ha.trans (h.first b hb).symm, h.joined⟩
  nothing := by simp

end Assertion

namespace Core

/-! ### Runs in sequence -/

/-- Runs with one budget after the other; gives the core in the end and all assertions. -/
def runAll : List UInt64 → Core → Core × List Assertion
  | [], c => (c, [])
  | n :: budgets, c =>
    let (d, a) := c.run n
    let (e, parts) := runAll budgets d
    (e, a :: parts)

/-- A run whose budget need not be a word. -/
def runFor (n : Nat) (c : Core) : Core × Assertion :=
  let (d, t) := advance n c .zero
  (d, ⟨c.hash, d.hash, t.steps, t.gas, t.logs⟩)

theorem run_eq_runFor (n : UInt64) (c : Core) : c.run n = c.runFor n.toNat := rfl

/-- A run can be cut anywhere: the second part goes on from the core that the first one leaves. -/
theorem runFor_add (m n : Nat) (c : Core) :
    c.runFor (m + n) =
      (((c.runFor m).1.runFor n).1, (c.runFor m).2.followedBy ((c.runFor m).1.runFor n).2) := by
  simp only [runFor, advance_add_zero m n c]
  rfl

/-- Runs in sequence come to one run with all their budgets, of which they are a split. -/
theorem runAll_eq_runFor (budgets : List UInt64) (c : Core) :
    (c.runAll budgets).1 = (c.runFor (budgets.map UInt64.toNat).sum).1 ∧
      (c.runFor (budgets.map UInt64.toNat).sum).2.IsSplit (c.runAll budgets).2 := by
  -- Each run starts from the core that the one before it has left, so the core is general.
  induction budgets generalizing c with
  | nil =>
    refine ⟨rfl, rfl, rfl, rfl, ?_, ?_, .nil, fun _ => rfl⟩
    · rintro a ⟨⟩
    · rintro a ⟨⟩
  | cons n budgets ih =>
    obtain ⟨hcore, hsplit⟩ := ih (c.run n).1
    rw [List.map_cons, List.sum_cons, runFor_add, ← run_eq_runFor]
    exact ⟨hcore, hsplit.cons rfl⟩

/-- A budget is an upper bound on the steps of a run, and the exact number if the core could go on.
-/
theorem steps_run (n : UInt64) (c : Core) :
    (c.run n).2.numSteps.toNat ≤ n.toNat ∧
      ((c.run n).1.status = .extensive → (c.run n).2.numSteps.toNat = n.toNat) := by
  -- A run begins with an empty tally, and its budget is a word, so nothing wraps.
  have hzero : Tally.zero.steps.toNat = 0 := rfl
  have h := steps_advance (n := n.toNat) (c := c) (t := .zero)
    (by rw [hzero, Nat.zero_add]; exact n.toNat_lt)
  rwa [hzero, Nat.zero_add] at h

/-- A run of a stopped core changes nothing and says so. -/
theorem run_of_stopped {c : Core} (h : c.status ≠ .extensive) (n : UInt64) :
    c.run n = (c, ⟨c.hash, c.hash, 0, 0, #[]⟩) := by
  simp only [run, advance_of_stopped h]
  rfl

/-- A run that stops does the same with any larger budget. -/
theorem runFor_add_of_stopped {c : Core} {m : Nat} (h : (c.runFor m).1.status ≠ .extensive)
    (n : Nat) : c.runFor (m + n) = c.runFor m := by
  have hrest : advance (m + n) c .zero = advance m c .zero := by
    -- The rest of the budget meets a stopped core.
    rw [advance_add]
    exact advance_of_stopped h n _
  simp only [runFor, hrest]

/-- Two runs do the same if the smaller of the budgets is enough for the core to stop. -/
theorem run_eq_of_stopped {c : Core} {m n : UInt64} (hm : (c.run m).1.status ≠ .extensive)
    (h : m ≤ n) : c.run n = c.run m := by
  rw [run_eq_runFor] at hm
  rw [run_eq_runFor, run_eq_runFor, ← Nat.add_sub_cancel' (UInt64.le_iff_toNat_le.mp h)]
  exact runFor_add_of_stopped hm _

/-- **Runs compose.** Runs in sequence, with any number of budgets that add up to a word, leave the
core that a single run with the sum leaves, and their assertions amount to the one of that run. A
run never takes more steps than its budget, takes all of them if the core could still go on, and
does nothing at all to a core that is stopped. -/
theorem run_compose :
    (∀ (c : Core) (budgets : List UInt64) (total : UInt64),
      total.toNat = (budgets.map UInt64.toNat).sum →
        (c.runAll budgets).1 = (c.run total).1 ∧
          (c.run total).2.IsSplit (c.runAll budgets).2) ∧
    ∀ (c : Core) (n : UInt64),
      (c.run n).2.numSteps ≤ n ∧
        ((c.run n).1.status = .extensive → (c.run n).2.numSteps = n) ∧
        (c.status ≠ .extensive → c.run n = (c, ⟨c.hash, c.hash, 0, 0, #[]⟩)) := by
  constructor
  · intro c budgets total htotal
    rw [run_eq_runFor, htotal]
    exact runAll_eq_runFor budgets c
  · intro c n
    obtain ⟨hle, heq⟩ := steps_run n c
    exact ⟨hle, fun h => UInt64.toNat_inj.mp (heq h), fun h => run_of_stopped h n⟩

/-- A loop that counts down from three. -/
def countdown : Core := ofImage (.ofCode #[.push 3, .push 1, .sub, .dup, .jumpIf 1, .halt])

/-- The loop is cut in its middle, where it could go on, and run on past its end; a run after that
does nothing. -/
theorem run_compose_countdown :
    ((1004 : UInt64).toNat = ([4, 0, 1000].map UInt64.toNat).sum ∧
      (countdown.runAll [4, 0, 1000]).1 = (countdown.run 1004).1 ∧
      (countdown.run 1004).2.IsSplit (countdown.runAll [4, 0, 1000]).2) ∧
    ((countdown.run 4).1.status = .extensive ∧ (countdown.run 4).2.numSteps = 4) ∧
    (countdown.run 1004).1.status ≠ .extensive ∧
      ((countdown.run 1004).1.run 7).1 = (countdown.run 1004).1 := by
  have hsum : (1004 : UInt64).toNat = ([4, 0, 1000].map UInt64.toNat).sum := by decide
  have hgoing : (countdown.run 4).1.status = .extensive := by decide +kernel
  have hstopped : (countdown.run 1004).1.status ≠ .extensive := by decide +kernel
  refine ⟨⟨hsum, run_compose.1 _ _ _ hsum⟩, ⟨hgoing, (run_compose.2 _ 4).2.1 hgoing⟩,
    hstopped, ?_⟩
  rw [(run_compose.2 _ 7).2.2 hstopped]

end Core

end StackMachine
