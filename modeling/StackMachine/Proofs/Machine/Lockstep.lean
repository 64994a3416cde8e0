import StackMachine.Proofs.Machine.History
import StackMachine.Proofs.Machine.Reply

/-!
# Instrumented machines never diverge

The comparison that completes a load is the last one that depends on the file. From then on the two
halves are in lockstep, whatever becomes of the file: an instrumented machine and its copies reply
what a reference machine does that was loaded alone at the same time, never fail, and count their
runs.
-/

namespace StackMachine

variable {mw : Meanwhile}

def Query.runs (queries : List Query) : UInt64 :=
  .ofNat (queries.countP fun | .execute _ => true | _ => false)

/-- Runs are counted, other queries are not. -/
theorem InstrumentedMachine.runs_answered (machine : InstrumentedMachine) (query : Query) :
    (machine.answered query).runs = machine.runs + Query.runs [query] := by
  cases query with
  | hash => exact (UInt64.add_zero _).symm
  | status => exact (UInt64.add_zero _).symm
  | execute maxSteps => rfl

@[simp] theorem Query.runs_append (first second : List Query) :
    runs (first ++ second) = runs first + runs second := by
  unfold runs
  rw [List.countP_append, UInt64.ofNat_add]

/-- Both halves stand where the queries have brought the core, and the runs are counted. -/
structure InstrumentedMachine.Accounts (core : Core) (queries : List Query)
    (machine : InstrumentedMachine) : Prop where
  lockstep : machine.Lockstep
  core : machine.reference.core = core.asked queries
  runs : machine.runs = Query.runs queries

/-- A machine that has just been loaded has made no run. -/
theorem InstrumentedMachine.accounts_paired (path : String) (warn : Bool) (core : Core) :
    (paired path warn core).Accounts core [] := ⟨rfl, rfl, rfl⟩

/-- A reply keeps the account, whatever becomes of the files. -/
theorem replyKeeps_accounts (core : Core) :
    ReplyKeeps mw (fun _ => True) fun machine queries =>
      ∃ twin : InstrumentedMachine, machine = .instrumented twin ∧ twin.Accounts core queries := by
  rintro query - queries w - ⟨twin, rfl, haccounts⟩
  rw [Machine.reply_instrumented mw query haccounts.lockstep]
  refine ⟨trivial, twin.answered query, rfl, ?_, ?_, ?_⟩
  · exact InstrumentedMachine.lockstep_answered haccounts.lockstep query
  · rw [twin.reference_core_answered, haccounts.core, Core.asked_concat]
  · rw [twin.runs_answered, haccounts.runs, Query.runs_append]

/-- The same for a reference machine alone. -/
theorem replyKeeps_reference (core : Core) :
    ReplyKeeps mw (fun _ => True) fun machine queries =>
      ∃ lone : ReferenceMachine, machine = .reference lone ∧ lone.core = core.asked queries := by
  rintro query - queries w - ⟨lone, rfl, hcore⟩
  rw [Machine.reply_reference]
  refine ⟨trivial, _, rfl, ?_⟩
  rw [hcore, Core.asked_concat]

/-- An instrumented machine and a reference machine that start at the same core, after the same
history: every copy of the first is in lockstep and has counted its runs, and it replies what the
copy of the second replies. -/
theorem twin_and_lone_after {core : Core} {twin : InstrumentedMachine} {lone : ReferenceMachine}
    (htwin : twin.Accounts core []) (hlone : lone.core = core) (w₁ w₂ : World) (name : String)
    (history : List Moment) (other : String) :
    let pair := (Scene.single name (.instrumented twin) w₁).after mw history
    let alone := (Scene.single name (.reference lone) w₂).after mw history
    match (Lineage.founder name).after history other with
    | none => pair.fleet.get? other = none ∧ alone.fleet.get? other = none
    | some queries =>
      (∃ twin : InstrumentedMachine, pair.fleet.get? other = some (.instrumented twin) ∧
        twin.native.slot = some (.ok twin.reference.core) ∧ twin.runs = Query.runs queries) ∧
      ∀ query, ∃ reply,
        (pair.perform mw (.ask other query)).1 = .replied reply ∧
          (alone.perform mw (.ask other query)).1 = .replied reply := by
  intro pair alone
  -- Each scene follows the lineage on its own account; the files may be anything in either.
  have hpair : Follows (fun _ => True) _ pair _ :=
    (Follows.founder trivial ⟨twin, rfl, htwin⟩ name).after (replyKeeps_accounts core) history
      fun _ _ _ _ => trivial
  have halone : Follows (fun _ => True) _ alone _ :=
    (Follows.founder trivial ⟨lone, rfl, hlone⟩ name).after (replyKeeps_reference core) history
      fun _ _ _ _ => trivial
  rcases hpair.found other with ⟨hpair, hl⟩ | ⟨_, queries, hpair, hl, twin, rfl, haccounts⟩
  · rcases halone.found other with ⟨halone, -⟩ | ⟨_, _, _, hl', _⟩
    · rw [hl]
      exact ⟨hpair, halone⟩
    · rw [hl] at hl'
      cases hl'
  · rcases halone.found other with ⟨_, hl'⟩ | ⟨_, _, halone, hl', lone, rfl, hcore⟩
    · rw [hl] at hl'
      cases hl'
    · cases hl.symm.trans hl'
      rw [hl]
      refine ⟨⟨twin, hpair, haccounts.lockstep, haccounts.runs⟩, ?_⟩
      intro query
      rw [Scene.perform_ask_of_present hpair, Scene.perform_ask_of_present halone,
        Machine.reply_instrumented mw query haccounts.lockstep, Machine.reply_reference, hcore,
        haccounts.core]
      exact ⟨_, rfl, rfl⟩

/-- **Once it is loaded, an instrumented machine never diverges.** -/
theorem InstrumentedMachine.lockstep_forever {path : String} {warn : Bool} {mw₀ : Meanwhile}
    {w w' : World} {machine : InstrumentedMachine}
    (hsame : ((ReferenceMachine.load path warn).carryOut mw₀ w).2.files.read path =
      w.files.read path)
    (hload : (load path warn).carryOut mw₀ w = (.ok machine, w')) :
    ∃ lone w₁, (ReferenceMachine.load path warn).carryOut mw₀ w = (.ok lone, w₁) ∧
      ∀ (mw : Meanwhile) (name : String) (history : List Moment) (other : String),
        let pair := (Scene.single name (.instrumented machine) w').after mw history
        let alone := (Scene.single name (.reference lone) w₁).after mw history
        match (Lineage.founder name).after history other with
        | none => pair.fleet.get? other = none ∧ alone.fleet.get? other = none
        | some queries =>
          (∃ twin : InstrumentedMachine, pair.fleet.get? other = some (.instrumented twin) ∧
            twin.native.slot = some (.ok twin.reference.core) ∧ twin.runs = Query.runs queries) ∧
          ∀ query, ∃ reply,
            (pair.perform mw (.ask other query)).1 = .replied reply ∧
              (alone.perform mw (.ask other query)).1 = .replied reply := by
  -- The load has succeeded, so there was a program, and both halves start with it.
  rw [load_of_unchanged hsame] at hload
  rw [ReferenceMachine.load_carryOut]
  rcases hprogram : w.files.program path with cause | ⟨image, findings⟩
  · rw [hprogram] at hload
    cases hload
  · rw [hprogram] at hload
    cases hload
    refine ⟨_, _, rfl, ?_⟩
    intro mw name history other
    exact twin_and_lone_after (accounts_paired path warn (.ofImage image)) rfl _ _ name history
      other

/-- A file that is removed after the load, and a copy that runs once. -/
theorem InstrumentedMachine.lockstep_forever_push_halt :
    let image := Image.ofCode #[.push 1, .halt]
    let w := World.withFile "p" image.encode
    let history := [.change fun _ => .empty, .use (.copy "m" "n"), .use (.ask "n" (.execute 5))]
    ((ReferenceMachine.load "p" true).carryOut .nothing w).2.files.read "p" = w.files.read "p" ∧
      ∃ machine w', (load "p" true).carryOut .nothing w = (.ok machine, w') ∧
        ∃ twin : InstrumentedMachine,
          ((Scene.single "m" (.instrumented machine) w').after .nothing history).fleet.get? "n" =
            some (.instrumented twin) ∧
          twin.native.slot = some (.ok twin.reference.core) ∧ twin.runs = 1 := by
  intro image w history
  have hprogram : w.files.program "p" = .ok (image, Image.findings image.code) := by
    refine Files.program_of_encode rfl ?_ rfl rfl
    rw [Image.encode, List.size_toByteArray]
    decide
  have hsame := ReferenceMachine.load_nothing_read "p" true w
  have hload := load_of_unchanged hsame
  rw [hprogram] at hload
  refine ⟨hsame, _, _, hload, ?_⟩
  obtain ⟨lone, w₁, -, hforever⟩ := lockstep_forever hsame hload
  exact (hforever .nothing "m" history "n").1

end StackMachine
