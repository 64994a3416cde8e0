import StackMachine.Proofs.Core.Commitment
import StackMachine.Proofs.Machine.Instrumented
import StackMachine.Proofs.Machine.Reply

/-!
# Replaced files are noticed

An instrumented machine reads its file twice, once for each half, and somebody may replace the file
in between. A comparison is then one of any two cores that come from images. Where the hash function
does not collide, it succeeds exactly if the two agree (`InstrumentedMachine.check_of_separated`,
`Core.hash_eq_iff`), and after that the halves stay together as long as they make the same runs
(`InstrumentedMachine.Executed.cores`).
-/

namespace StackMachine.InstrumentedMachine

variable {mw : Meanwhile} {machine next : InstrumentedMachine} {w : World} {c d : Core}

/-! ### Any two cores -/

/-- What the hashes leave to the statuses is nothing. -/
theorem difference?_of_separates (h : Sha256.Separates c.message d.message) :
    difference? c d = if c.hash = d.hash then none else some (c.hash.toHex, d.hash.toHex) := by
  unfold difference?
  by_cases hhash : c.hash = d.hash
  · -- Equal hashes are those of equal messages, and a message contains the status.
    have hmessage : c.message = d.message := by
      rw [Core.hash_eq, Core.hash_eq] at hhash
      exact h hhash
    obtain ⟨-, -, hstatus, -⟩ := Core.message_inj.mp hmessage
    simp only [hhash, hstatus, ne_eq, not_true_eq_false, if_false, if_true]
  · simp only [ne_eq, hhash, not_false_eq_true, if_true, if_false]

/-- A comparison with a native half that has a program is one of hashes. -/
theorem check_of_separated (machine : InstrumentedMachine)
    (hnative : machine.native.content w.files = .ok d)
    (h : Sha256.Separates machine.reference.core.message d.message) (context : String) :
    ((check context).carryOut mw machine w).1 =
      (if machine.reference.core.hash = d.hash then .ok machine.reference.core.hash
        else .error (.divergence context machine.reference.core.hash.toHex d.hash.toHex),
        { machine with native := machine.native.holding (.ok d) }) := by
  simp only [check_carryOut, hnative, difference?_of_separates h]
  by_cases hhash : machine.reference.core.hash = d.hash
  · simp only [if_pos hhash]
  · simp only [if_neg hhash]

/-! ### Runs of the halves -/

inductive Half where
  | reference
  | native
  deriving DecidableEq

def executeOn (maxSteps : UInt64) : Half → Operation InstrumentedMachine Assertion
  | .reference => onReference (ReferenceMachine.execute maxSteps)
  | .native => onNative (NativeMachine.execute maxSteps)

/-- The runs of one half among the runs of both. -/
def runsOf (half : Half) (runs : List (Half × UInt64)) : List Query :=
  (runs.filter (·.1 = half)).map fun run => .execute run.2

/-- Where runs of the halves lead, in any order. Each is made in a world of its own, so anything may
happen in between. -/
inductive Executed (mw : Meanwhile) :
    InstrumentedMachine → List (Half × UInt64) → InstrumentedMachine → Prop
  | nil {machine : InstrumentedMachine} : Executed mw machine [] machine
  | cons {machine next : InstrumentedMachine} {half : Half} {maxSteps : UInt64}
      {runs : List (Half × UInt64)} (w : World)
      (h : Executed mw ((executeOn maxSteps half).carryOut mw machine w).1.2 runs next) :
      Executed mw machine ((half, maxSteps) :: runs) next

/-- Either half ends where its own runs bring it. -/
theorem Executed.cores {runs : List (Half × UInt64)} (h : Executed mw machine runs next)
    (hslot : machine.native.slot = some (.ok d)) :
    next.reference.core = machine.reference.core.asked (runsOf .reference runs) ∧
      next.native.slot = some (.ok (d.asked (runsOf .native runs))) := by
  -- A run of the native half changes its core, so that core is general.
  induction h generalizing d with
  | nil => exact ⟨rfl, hslot⟩
  | @cons machine next half maxSteps runs w _ ih =>
    cases half with
    | reference =>
      simp only [executeOn, onReference_carryOut, ReferenceMachine.execute_carryOut] at ih
      exact ih hslot
    | native =>
      have hcontent := NativeMachine.content_of_slot hslot w.files
      simp only [executeOn, onNative_carryOut, NativeMachine.execute,
        NativeMachine.withCore_carryOut, hcontent] at ih
      exact ih rfl

/-- Halves that are in the same state stay together if both make the same runs. -/
theorem Executed.lockstep {runs : List (Half × UInt64)} (h : Executed mw machine runs next)
    (hstart : machine.Lockstep) (hruns : runsOf .reference runs = runsOf .native runs) :
    next.Lockstep := by
  obtain ⟨hreference, hnative⟩ := h.cores hstart
  rw [Lockstep, hnative, hreference, hruns]

/-! ### Comparisons that succeed -/

section Comparison

variable {first second : Image} (hc : Core.Reachable first machine.reference.core)
  (hd : Core.Reachable second d) (hnative : machine.native.content w.files = .ok d)
  (h : machine.reference.core.Separated d) {context : String}

include hc hd hnative h

/-- A comparison of cores that come from images succeeds exactly if they agree. -/
theorem check_eq_ok_iff :
    (∃ digest, ((check context).carryOut mw machine w).1.1 = .ok digest) ↔
      machine.reference.core.Agree d := by
  rw [← Core.hash_eq_iff hc hd h, check_of_separated machine hnative h.states]
  constructor
  · rintro ⟨digest, hresult⟩
    by_contra hhash
    simp only [if_neg hhash] at hresult
    cases hresult
  · intro hhash
    simp only [if_pos hhash]
    exact ⟨_, rfl⟩

/-- A comparison that succeeds leaves the halves in lockstep. -/
theorem lockstep_of_check {digest : Digest}
    (hok : ((check context).carryOut mw machine w).1.1 = .ok digest) :
    ((check context).carryOut mw machine w).1.2.Lockstep := by
  have hagree := (check_eq_ok_iff hc hd hnative h).mp ⟨digest, hok⟩
  rw [check_of_separated machine hnative h.states]
  show some (Except.ok d) = some (Except.ok machine.reference.core)
  rw [hagree.eq hc hd]

end Comparison

/-- A comparison that does not succeed gives the two hashes. -/
theorem check_eq_error (hnative : machine.native.content w.files = .ok d)
    (h : Sha256.Separates machine.reference.core.message d.message) {context : String}
    {cause : Failure} (herror : ((check context).carryOut mw machine w).1.1 = .error cause) :
    machine.reference.core.hash ≠ d.hash ∧
      cause = .divergence context machine.reference.core.hash.toHex d.hash.toHex := by
  rw [check_of_separated machine hnative h] at herror
  by_cases hhash : machine.reference.core.hash = d.hash
  · simp only [if_pos hhash] at herror
    cases herror
  · simp only [if_neg hhash] at herror
    cases herror
    exact ⟨hhash, rfl⟩

/-! ### The two reads -/

section Reading

variable {path : String} {warn : Bool} {image : Image} (runs : UInt64) (context : String)

/-- A reference half that has been loaded, and a file that holds no valid program by now. -/
theorem check_of_invalid {cause : Failure} (h : w.files.program path = .error cause) :
    ((check context).carryOut mw ⟨⟨path, warn, .ofImage image⟩, .new path, runs⟩ w).1.1 =
      .error (.loadFailed path cause) := by
  have hcontent : (NativeMachine.new path).content w.files = .error cause := by
    rw [NativeMachine.content_new, h]
    rfl
  simp only [check_carryOut, hcontent]
  rfl

/-- Cores that have made no run differ in nothing but the code. -/
theorem check_of_valid {other : Image} {findings : List Finding}
    (h : w.files.program path = .ok (other, findings))
    (hseparated : Core.Separated (.ofImage image) (.ofImage other)) :
    ((check context).carryOut mw ⟨⟨path, warn, .ofImage image⟩, .new path, runs⟩ w).1.1 =
      if image.code = other.code then .ok (Core.ofImage image).hash
      else .error (.divergence context (Core.ofImage image).hash.toHex
        (Core.ofImage other).hash.toHex) := by
  have hcontent : (NativeMachine.new path).content w.files = .ok (.ofImage other) := by
    rw [NativeMachine.content_new, h]
    rfl
  have hsame : (Core.ofImage image).hash = (Core.ofImage other).hash ↔ image.code = other.code := by
    rw [Core.hash_eq_iff .fresh .fresh hseparated]
    exact ⟨Core.Agree.code, fun hcode => ⟨hcode, rfl, rfl, rfl⟩⟩
  rw [check_of_separated ⟨⟨path, warn, .ofImage image⟩, .new path, runs⟩ hcontent hseparated.states]
  exact if_congr hsame rfl rfl

end Reading

/-- A load is the load of the reference half, and the first comparison. -/
theorem load_result {path : String} {warn : Bool} {before between : World}
    {reference : ReferenceMachine}
    (hload : (ReferenceMachine.load path warn).carryOut mw before = (.ok reference, between)) :
    let checked := ((check "load").carryOut mw ⟨reference, .new path, 0⟩ between).1
    ((load path warn).carryOut mw before).1 = checked.1.map fun _ => checked.2 := by
  rw [ReferenceMachine.load_carryOut] at hload
  rw [load_carryOut]
  generalize before.files.program path = found at hload
  rcases found with cause | ⟨image, findings⟩
  · cases hload
  · cases hload
    simp only
    rcases (check "load").carryOut mw _ _ with ⟨⟨cause | digest, machine⟩, w'⟩
    · rfl
    · rfl

/-- **A file that is replaced between the two reads is noticed.** The reference half is loaded, and
the first comparison makes the native half read the file as it is then. If there is no valid program
by then, the comparison fails because of that; if there is a program with another code it fails with
the two hashes, and with the same code it succeeds. A load ends with such a comparison.

The same goes for a reference core and a native core that have both come from images by any runs.
The comparison succeeds exactly if they agree. Equal hashes leave no difference to the statuses, and
what is given for a divergence are the hashes. Once a comparison has succeeded, runs that are made
on both halves make no later one fail. -/
theorem replacement_noticed (mw : Meanwhile) :
    (∀ (path : String) (warn : Bool) (before between : World) (reference : ReferenceMachine),
      (ReferenceMachine.load path warn).carryOut mw before = (.ok reference, between) →
      ∃ image findings, before.files.program path = .ok (image, findings) ∧
        (∀ (context : String) (runs : UInt64) (w : World),
          let result := ((check context).carryOut mw ⟨reference, .new path, runs⟩ w).1.1
          match w.files.program path with
          | .error cause => result = .error (.loadFailed path cause)
          | .ok (other, _) =>
            Core.Separated (.ofImage image) (.ofImage other) →
              result =
                if image.code = other.code then .ok (Core.ofImage image).hash
                else .error (.divergence context (Core.ofImage image).hash.toHex
                  (Core.ofImage other).hash.toHex)) ∧
        let checked := ((check "load").carryOut mw ⟨reference, .new path, 0⟩ between).1
        ((load path warn).carryOut mw before).1 = checked.1.map fun _ => checked.2) ∧
    ∀ (first second : Image) (machine : InstrumentedMachine) (d : Core) (w : World)
        (context : String),
      let c := machine.reference.core
      let checked := ((check context).carryOut mw machine w).1
      Core.Reachable first c → Core.Reachable second d →
      machine.native.content w.files = .ok d → c.Separated d →
      ((∃ digest, checked.1 = .ok digest) ↔ c.Agree d) ∧
      (c.hash = d.hash → c.status = d.status) ∧
      (∀ cause, checked.1 = .error cause →
        c.hash ≠ d.hash ∧ cause = .divergence context c.hash.toHex d.hash.toHex) ∧
      ∀ digest, checked.1 = .ok digest →
        ∀ runs next, Executed mw checked.2 runs next → runsOf .reference runs = runsOf .native runs →
          ∀ (later : String) (w : World),
            ((check later).carryOut mw next w).1.1 = .ok next.reference.core.hash := by
  constructor
  · intro path warn before between reference hload
    have hresult := load_result hload
    rw [ReferenceMachine.load_carryOut] at hload
    rcases hprogram : before.files.program path with cause | ⟨image, findings⟩
    · rw [hprogram] at hload
      cases hload
    · rw [hprogram] at hload
      cases hload
      refine ⟨image, findings, rfl, ?_, hresult⟩
      intro context runs w
      cases hfile : w.files.program path with
      | error cause => exact check_of_invalid runs context hfile
      | ok found => exact check_of_valid runs context hfile
  · intro first second machine d w context c checked hc hd hnative hseparated
    refine ⟨check_eq_ok_iff hc hd hnative hseparated, ?_, ?_, ?_⟩
    · intro hhash
      exact ((Core.hash_eq_iff hc hd hseparated).mp hhash).status
    · intro cause herror
      exact check_eq_error hnative hseparated.states herror
    · intro digest hok runs next hexecuted hruns later w'
      have hchecked := lockstep_of_check hc hd hnative hseparated hok
      have hnext : next.Lockstep := hexecuted.lockstep hchecked hruns
      rw [check_of_lockstep hnext]

/-- A file whose program is replaced by another one; and a machine that is loaded and compared, and
whose halves are then run one after the other, the native one first. -/
theorem replacement_noticed_push_halt :
    let first := Image.ofCode #[.push 1, .halt]
    let second := Image.ofCode #[.halt]
    let before := World.withFile "p" first.encode
    let after := World.withFile "p" second.encode
    ∃ reference between,
      (ReferenceMachine.load "p" true).carryOut .nothing before = (.ok reference, between) ∧
      (((check "hash").carryOut .nothing ⟨reference, .new "p", 0⟩ after).1.1 =
        .error (.divergence "hash" (Core.ofImage first).hash.toHex
          (Core.ofImage second).hash.toHex)) ∧
      let checked := ((check "load").carryOut .nothing ⟨reference, .new "p", 0⟩ before).1
      ∃ digest next, checked.1 = .ok digest ∧
        Executed .nothing checked.2 [(.native, 5), (.reference, 5)] next ∧
        ((check "hash").carryOut .nothing next after).1.1 = .ok next.reference.core.hash := by
  intro first second before after
  have hbefore : before.files.program "p" = .ok (first, Image.findings first.code) := by
    refine Files.program_of_encode rfl ?_ rfl rfl
    rw [Image.encode, List.size_toByteArray]
    decide
  have hafter : after.files.program "p" = .ok (second, Image.findings second.code) := by
    refine Files.program_of_encode rfl ?_ rfl rfl
    rw [Image.encode, List.size_toByteArray]
    decide
  have hdiffers : first.code ≠ second.code := by decide
  have hhashes : (Core.ofImage first).hash ≠ (Core.ofImage second).hash := by decide +kernel
  -- From here on the two programs are any that differ, so that nothing is computed any more.
  clear_value before after first second
  have hseparated : Core.Separated (.ofImage first) (.ofImage second) := by
    constructor
    · intro hdigests
      exact absurd (congrArg (fun digest => Sha256.hash (Core.stateBytes digest 0 .extensive []))
        hdigests) hhashes
    · intro hhash
      exact absurd hhash hhashes
  have hload : (ReferenceMachine.load "p" true).carryOut .nothing before = _ :=
    ReferenceMachine.load_carryOut "p" true before
  rw [hbefore] at hload
  obtain ⟨hreads, hgeneral⟩ := replacement_noticed .nothing
  refine ⟨_, _, hload, ?_, ?_⟩
  · obtain ⟨image, findings, himage, hchecks, -⟩ := hreads "p" true before _ _ hload
    obtain ⟨himage, -⟩ := Prod.mk.inj (Except.ok.inj (hbefore.symm.trans himage))
    rw [← himage] at hchecks
    have hcheck := hchecks "hash" 0 after
    rw [hafter] at hcheck
    rw [hcheck hseparated, if_neg hdiffers]
  · have hcontent : (NativeMachine.new "p").content before.files = .ok (.ofImage first) := by
      rw [NativeMachine.content_new, hbefore]
      rfl
    obtain ⟨hok, -, -, hlater⟩ := hgeneral first first ⟨⟨"p", true, .ofImage first⟩, .new "p", 0⟩
      (.ofImage first) before "load" .fresh .fresh hcontent ⟨fun _ => rfl, fun _ => rfl⟩
    obtain ⟨digest, hdigest⟩ := hok.mpr ⟨rfl, rfl, rfl, rfl⟩
    have hrun (machine : InstrumentedMachine) :
        ∃ next, Executed .nothing machine [(.native, 5), (.reference, 5)] next :=
      ⟨_, .cons before (.cons before .nil)⟩
    obtain ⟨next, hnext⟩ := hrun _
    exact ⟨digest, next, hdigest, hnext, hlater digest hdigest _ next hnext rfl "hash" after⟩

end StackMachine.InstrumentedMachine
